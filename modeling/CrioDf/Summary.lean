import CrioDf.Main
import CrioDf.RepeatedIds

/-!
# CrioDf.Summary

The counts the report prints beside the byte figures: ACTIVE in the summary table and
"Images with containers" in the verbose summary, "Total unique layers" and "Shared layers
(used by >1 image)". All three are read off the dicts `main` builds.

`len(layer_count)` is the number of distinct layers some image's walk reaches, and the
shared count those at least two image records reach, for every input. With distinct image
ids, two images on one top layer are never both active, since `layer_to_image` keeps one
image per top layer; so ACTIVE is at most the number of distinct `parent` values of the
volatile layers.

## Main results

* `diskUsage_layer_counts`: the two layer counts, over the walks;
* `diskUsage_active_images`: at most one active image per top layer.
-/

namespace CrioDf

open Finset

/-- `len([i for i in image_data if i['containers'] > 0])`. -/
def DiskUsage.activeImages (du : DiskUsage) : Nat :=
  (du.imageData.filter (·.containers > 0)).length

/-- `len(layer_count)`. -/
def DiskUsage.uniqueLayers (du : DiskUsage) : Nat :=
  du.layerCount.keys.length

/-- `len([lid for lid, c in layer_count.items() if c > 1])`. -/
def DiskUsage.sharedLayers (du : DiskUsage) : Nat :=
  (du.layerCount.entries.filter (·.2 > 1)).length

/-! ### The layer counts -/

theorem layerCount_of_diskUsage {images : List Image} {layers : List Layer}
    {volatileLayers : List VolatileLayer} {du : DiskUsage}
    (h : diskUsage images layers volatileLayers = some du) :
    du.layerCount = (countLayers (layersById layers) images).1 := by
  simp only [diskUsage, Option.bind_eq_bind, Option.bind_eq_some, Option.pure_def,
    Option.some.injEq] at h
  obtain ⟨_, -, _, -, rfl⟩ := h
  rfl

/-- The keys counted more than once, as `layer_count.items()` filters them. -/
theorem length_filter_entries_eq {d : Dict String Nat} :
    (d.entries.filter (·.2 > 1)).length = (d.keys.filter (d.getD · 0 > 1)).length := by
  rw [Dict.keys, List.filter_map, List.length_map]
  refine congrArg List.length (List.filter_congr fun e he => ?_)
  have hget : d.get? e.1 = some e.2 := Dict.mem_entries_iff.mp he
  simp [Function.comp_def, Dict.getD, hget]

/-- For every input, "Total unique layers" is the number of distinct layers the walks
reach, and "Shared layers" the number of those that at least two image records' walks
reach. -/
theorem diskUsage_layer_counts (images : List Image) (layers : List Layer)
    (volatileLayers : List VolatileLayer) :
    ∃ du, diskUsage images layers volatileLayers = some du ∧
      du.uniqueLayers = (storeLayers (layersById layers) images).card ∧
      du.sharedLayers = ((storeLayers (layersById layers) images).filter
        (2 ≤ useCount (layersById layers) images ·)).card := by
  obtain ⟨du, hdu⟩ := Option.isSome_iff_exists.1 (diskUsage_isSome images layers volatileLayers)
  have hkeys := (countLayers (layersById layers) images).1.keys_nodup
  refine ⟨du, hdu, ?_, ?_⟩
  · rw [DiskUsage.uniqueLayers, layerCount_of_diskUsage hdu, ← keys_toFinset_countLayers,
      List.toFinset_card_of_nodup hkeys]
  · rw [DiskUsage.sharedLayers, layerCount_of_diskUsage hdu, length_filter_entries_eq,
      ← List.toFinset_card_of_nodup (hkeys.filter _), List.toFinset_filter,
      keys_toFinset_countLayers]
    refine congrArg card (filter_congr fun l _ => ?_)
    rw [countLayers_getD, decide_eq_true_eq]
    rfl

/-! ### Active images -/

section Active

variable {images : List Image} (hid : (images.map Image.id).Nodup)
  (volatileLayers : List VolatileLayer)
include hid

/-- An image with a container is the one `layer_to_image` keeps for its top layer, and some
volatile layer has that top layer as parent. -/
theorem exists_parent_of_containers_pos {image : Image} (himage : image ∈ images)
    (hpos : 0 < (containersPerImage (layerToImage images) volatileLayers).getD image.id 0) :
    (layerToImage images).get? image.layer = some image.id ∧
      ∃ c ∈ volatileLayers, c.parent = image.layer := by
  rw [containersPerImage_getD, List.countP_pos_iff] at hpos
  obtain ⟨c, hc, hget⟩ := hpos
  have hget' : (layerToImage images).get? c.parent = some image.id := by simpa using hget
  rw [layerToImage_get?] at hget'
  obtain ⟨other, hfind, hid'⟩ := Option.map_eq_some'.mp hget'
  have hother := List.mem_reverse.mp (List.mem_of_find?_eq_some hfind)
  have hlayer : other.layer = c.parent := by simpa using List.find?_some hfind
  have hsame : other = image := List.inj_on_of_nodup_map hid hother himage hid'
  subst hsame
  exact ⟨by rw [layerToImage_get?, hlayer, hfind]; rfl, c, hc, hlayer.symm⟩

/-- Two images on one top layer are never both counted with containers. -/
theorem eq_of_containers_pos {image image' : Image} (himage : image ∈ images)
    (himage' : image' ∈ images) (hlayer : image.layer = image'.layer)
    (hpos : 0 < (containersPerImage (layerToImage images) volatileLayers).getD image.id 0)
    (hpos' : 0 < (containersPerImage (layerToImage images) volatileLayers).getD image'.id 0) :
    image = image' := by
  have h := (exists_parent_of_containers_pos hid volatileLayers himage hpos).1
  rw [hlayer, (exists_parent_of_containers_pos hid volatileLayers himage' hpos').1] at h
  exact (List.inj_on_of_nodup_map hid himage' himage (Option.some.inj h)).symm

end Active

/-- With distinct image ids, two images on one top layer never both report containers, so
ACTIVE is at most the number of distinct `parent` values of the volatile layers. -/
theorem diskUsage_active_images (images : List Image) (layers : List Layer)
    (volatileLayers : List VolatileLayer) (hid : (images.map Image.id).Nodup) :
    ∃ du, diskUsage images layers volatileLayers = some du ∧
      (∀ image image' e e', du.Reports images image e → du.Reports images image' e' →
        image ≠ image' → image.layer = image'.layer → e.containers = 0 ∨ e'.containers = 0) ∧
      du.activeImages ≤ (volatileLayers.map VolatileLayer.parent).toFinset.card := by
  set perImage := containersPerImage (layerToImage images) volatileLayers
  have hactive : (images.filter fun image => 0 < perImage.getD image.id 0).map Image.layer ⊆
      volatileLayers.map VolatileLayer.parent := fun p hp => by
    obtain ⟨image, himage, rfl⟩ := List.mem_map.mp hp
    obtain ⟨himage, hpos⟩ := List.mem_filter.mp himage
    obtain ⟨c, hc, hparent⟩ :=
      (exists_parent_of_containers_pos hid volatileLayers himage (by simpa using hpos)).2
    exact List.mem_map.mpr ⟨c, hc, hparent⟩
  have hnodup : ((images.filter fun image => 0 < perImage.getD image.id 0).map
      Image.layer).Nodup := by
    refine ((List.Nodup.of_map Image.id hid).filter _).map_on fun image himage image' himage' h => ?_
    obtain ⟨himage, hpos⟩ := List.mem_filter.mp himage
    obtain ⟨himage', hpos'⟩ := List.mem_filter.mp himage'
    exact eq_of_containers_pos hid volatileLayers himage himage' h (by simpa using hpos)
      (by simpa using hpos')
  refine ⟨_, diskUsage_eq layers volatileLayers hid, fun image image' e e' he he' hne hlayer => ?_,
    ?_⟩
  · obtain ⟨himage, rfl⟩ := (DiskUsage.reports_iff_of_map rfl).mp he
    obtain ⟨himage', rfl⟩ := (DiskUsage.reports_iff_of_map rfl).mp he'
    simp only [imageRecord]
    by_contra hboth
    push_neg at hboth
    exact hne (eq_of_containers_pos hid volatileLayers himage himage' hlayer
      (Nat.pos_of_ne_zero hboth.1) (Nat.pos_of_ne_zero hboth.2))
  · have hlen := (hnodup.subperm fun p hp => List.mem_dedup.mpr (hactive hp)).length_le
    rw [List.length_map, ← List.card_toFinset] at hlen
    simpa [DiskUsage.activeImages, expectedUsage, List.filter_map, Function.comp_def,
      imageRecord] using hlen

/-- Two images on one top layer with two containers on it: one active image. -/
theorem diskUsage_active_images_shared_top :
    (([⟨"aaaa", ["app:v1"], some "top"⟩, ⟨"bbbb", ["app:v2"], some "top"⟩] : List Image).map
      Image.id).Nodup ∧
    ∃ du, diskUsage [⟨"aaaa", ["app:v1"], some "top"⟩, ⟨"bbbb", ["app:v2"], some "top"⟩]
        [⟨"top", none, some 10, none⟩] [⟨some "top"⟩, ⟨some "top"⟩] = some du ∧
      du.activeImages ≤ 1 :=
  ⟨by decide, (diskUsage_active_images _ _ _ (by decide)).imp fun _ h =>
    ⟨h.1, h.2.2.trans (by decide)⟩⟩

end CrioDf
