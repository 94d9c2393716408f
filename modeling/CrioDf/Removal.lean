import CrioDf.Ownership

/-!
# CrioDf.Removal

Deleting one image from a store, as two runs of `main`'s accounting: one on the store, one
on the store without the image's record. The second run may also lose layer records, but
only of layers that the deleted image's walk reaches and no other walk does (`removed`).

The argument rests on the locality of the walk (`walkLoop_congr`): no other image's walk
reaches a removed layer, so every other walk is the same in both runs
(`walk_erase_eq`). Each layer then loses one user exactly when the deleted image's walk
reaches it (`useCount_erase`), so the layers that leave the store are those unique to the
deleted image (`storeLayers_erase`).

## Main result

`diskUsage_remove_image`: the store total falls by exactly the deleted image's unique
bytes (its reclaimable bytes when it has no containers), every other image keeps its walk
and its size, and with non-negative sizes no other image's unique bytes fall.
-/

namespace CrioDf

open Finset

section Removal

variable {images : List Image} {layers : List Layer} {image : Image} {removed : List String}

variable (hid : (images.map Image.id).Nodup) (himage : image ∈ images)
  (hremoved : ∀ r ∈ removed, r ∈ walkImageLayers image (layersById layers) ∧
    ∀ other ∈ images, other ≠ image → r ∉ walkImageLayers other (layersById layers))
include hremoved

/-- No other image's walk changes when the removed records go. -/
theorem walk_erase_eq {other : Image} (hother : other ∈ images) (hne : other ≠ image) :
    walkImageLayers other (layersById (layers.filter (·.id ∉ removed))) =
      walkImageLayers other (layersById layers) := by
  refine walkLoop_congr _ (fun k hk => by rw [layersById_get?_filter, hk, ite_self]) fun k hk => ?_
  have hk' : k ∉ removed := fun hr => (hremoved k hr).2 other hother hne hk
  rw [layersById_get?_filter, if_neg hk']

include hid himage

/-- A layer loses one user exactly when the deleted image's walk reaches it. -/
theorem useCount_erase (l : String) :
    useCount (layersById layers) images l =
      useCount (layersById (layers.filter (·.id ∉ removed))) (images.erase image) l +
        if l ∈ walkImageLayers image (layersById layers) then 1 else 0 := by
  rw [useCount, (List.perm_cons_erase himage).countP_eq, List.countP_cons, useCount]
  congr 1
  · refine List.countP_congr fun other hother => ?_
    obtain ⟨hne, hmem⟩ := (List.Nodup.of_map Image.id hid).mem_erase_iff.mp hother
    rw [walk_erase_eq hremoved hmem hne]
  · simp

/-- The layers that leave the store are those only the deleted image uses. -/
theorem storeLayers_erase :
    storeLayers (layersById (layers.filter (·.id ∉ removed))) (images.erase image) =
      storeLayers (layersById layers) images \
        (walkImageLayers image (layersById layers)).toFinset.filter
          (useCount (layersById layers) images · ≤ 1) := by
  ext l
  simp only [mem_sdiff, mem_filter, List.mem_toFinset, mem_storeLayers]
  have hcount := useCount_erase hid himage hremoved l
  have hpos : ∀ (lbi : Dict String Layer) (imgs : List Image),
      (∃ other ∈ imgs, l ∈ walkImageLayers other lbi) ↔ 0 < useCount lbi imgs l := fun _ _ => by
    simp [useCount, List.countP_pos_iff]
  rw [hpos, hpos]
  by_cases hl : l ∈ walkImageLayers image (layersById layers) <;> simp [hl] at hcount ⊢ <;> omega

omit himage in
/-- Sizes of the layers that stay are unchanged. -/
theorem layerSizeOf_erase {l : String}
    (hl : l ∈ storeLayers (layersById (layers.filter (·.id ∉ removed))) (images.erase image)) :
    layerSizeOf (layersById (layers.filter (·.id ∉ removed))) l = layerSizeOf (layersById layers) l := by
  obtain ⟨other, hother, hwalk⟩ := (mem_storeLayers _ _).mp hl
  obtain ⟨hne, hmem⟩ := (List.Nodup.of_map Image.id hid).mem_erase_iff.mp hother
  rw [walk_erase_eq hremoved hmem hne] at hwalk
  have hl' : l ∉ removed := fun hr => (hremoved l hr).2 other hmem hne hwalk
  rw [layerSizeOf, layerSizeOf, sizeAt?, sizeAt?, layersById_get?_filter, if_neg hl']

/-- The store total falls by the deleted image's unique bytes. -/
theorem storeBytes_erase :
    storeBytes (layersById (layers.filter (·.id ∉ removed))) (images.erase image) =
      storeBytes (layersById layers) images - uniqueBytes (layersById layers) images image := by
  have hsub : (walkImageLayers image (layersById layers)).toFinset.filter
      (useCount (layersById layers) images · ≤ 1) ⊆ storeLayers (layersById layers) images :=
    fun l hl => (mem_storeLayers _ _).mpr
      ⟨image, himage, List.mem_toFinset.mp (mem_filter.mp hl).1⟩
  rw [storeBytes, sum_congr rfl fun l hl => layerSizeOf_erase hid hremoved hl,
    storeLayers_erase hid himage hremoved, storeBytes, ← sum_sdiff hsub, uniqueBytes]
  omega

/-- Another image keeps the bytes of its walk, and with non-negative sizes its unique bytes
can only grow. -/
theorem bytes_erase {other : Image} (hother : other ∈ images) (hne : other ≠ image) :
    sharedBytes (layersById (layers.filter (·.id ∉ removed))) (images.erase image) other +
        uniqueBytes (layersById (layers.filter (·.id ∉ removed))) (images.erase image) other =
      sharedBytes (layersById layers) images other + uniqueBytes (layersById layers) images other ∧
    ((∀ layer ∈ layers, 0 ≤ layerSize layer) →
      uniqueBytes (layersById layers) images other ≤
        uniqueBytes (layersById (layers.filter (·.id ∉ removed))) (images.erase image) other) := by
  have hstay : ∀ l ∈ (walkImageLayers other (layersById layers)).toFinset,
      layerSizeOf (layersById (layers.filter (·.id ∉ removed))) l =
        layerSizeOf (layersById layers) l := fun l hl =>
    layerSizeOf_erase hid hremoved ((mem_storeLayers _ _).mpr
      ⟨other, (List.Nodup.of_map Image.id hid).mem_erase_iff.mpr ⟨hne, hother⟩,
        by rw [walk_erase_eq hremoved hother hne]; exact List.mem_toFinset.mp hl⟩)
  refine ⟨?_, fun hnn => ?_⟩
  · rw [sharedBytes_add_uniqueBytes, sharedBytes_add_uniqueBytes, walk_erase_eq hremoved hother hne]
    exact sum_congr rfl hstay
  · rw [uniqueBytes, uniqueBytes, walk_erase_eq hremoved hother hne,
      sum_congr rfl fun l hl => hstay l (mem_filter.mp hl).1]
    refine sum_le_sum_of_subset_of_nonneg (fun l hl => ?_) fun l _ _ => layerSizeOf_nonneg hnn l
    simp only [mem_filter] at hl ⊢
    have := useCount_erase hid himage hremoved l
    exact ⟨hl.1, by omega⟩

end Removal

/-- Deleting an image frees exactly its unique bytes, and never another image's bytes:
the store total falls by the image's unique size, every other image keeps its walk and its
size, and (for non-negative layer sizes) no other image's unique size falls. -/
theorem diskUsage_remove_image (images : List Image) (layers : List Layer)
    (volatileLayers : List VolatileLayer) (image : Image) (removed : List String)
    (hid : (images.map Image.id).Nodup) (himage : image ∈ images)
    (hremoved : ∀ r ∈ removed, r ∈ walkImageLayers image (layersById layers) ∧
      ∀ other ∈ images, other ≠ image → r ∉ walkImageLayers other (layersById layers)) :
    ∃ du du', diskUsage images layers volatileLayers = some du ∧
      diskUsage (images.erase image) (layers.filter (·.id ∉ removed)) volatileLayers = some du' ∧
      du.imageData.length = images.length ∧ du'.imageData.length = images.length - 1 ∧
      (∀ e, du.Reports images image e →
        du'.totalSize = du.totalSize - e.uniqueSize ∧
        (e.containers = 0 → du'.totalSize = du.totalSize - e.reclaimable)) ∧
      (∀ other ∈ images, other ≠ image →
        walkImageLayers other (layersById (layers.filter (·.id ∉ removed))) =
          walkImageLayers other (layersById layers)) ∧
      (∀ other e e', other ≠ image → du.Reports images other e →
        du'.Reports (images.erase image) other e' →
        e'.size = e.size ∧
        ((∀ layer ∈ layers, 0 ≤ layerSize layer) → e.uniqueSize ≤ e'.uniqueSize)) := by
  have hid' : ((images.erase image).map Image.id).Nodup :=
    ((List.erase_sublist image images).map Image.id).nodup hid
  refine ⟨_, _, diskUsage_eq layers volatileLayers hid,
    diskUsage_eq (layers.filter (·.id ∉ removed)) volatileLayers hid',
    by simp [expectedUsage], by simp [expectedUsage, List.length_erase_of_mem himage], ?_,
    fun other hother hne => walk_erase_eq hremoved hother hne, ?_⟩
  · intro e he
    obtain ⟨-, rfl⟩ := (DiskUsage.reports_iff_of_map rfl).mp he
    have htotal := storeBytes_erase hid himage hremoved
    refine ⟨htotal, fun h0 => ?_⟩
    simp only [imageRecord] at h0 ⊢
    rwa [if_pos h0]
  · intro other e e' hne he he'
    obtain ⟨hother, rfl⟩ := (DiskUsage.reports_iff_of_map rfl).mp he
    obtain ⟨-, rfl⟩ := (DiskUsage.reports_iff_of_map rfl).mp he'
    exact bytes_erase hid himage hremoved hother hne

/-- Two images over a shared base: deleting the first one together with the record of its
own top layer `la`, which only its walk reaches. -/
theorem diskUsage_remove_image_own_layer :
    (([⟨"aaaa", ["app-a:v1"], some "la"⟩, ⟨"bbbb", ["app-b:v1"], some "lb"⟩] : List Image).map
      Image.id).Nodup ∧
    (⟨"aaaa", ["app-a:v1"], some "la"⟩ : Image) ∈
      ([⟨"aaaa", ["app-a:v1"], some "la"⟩, ⟨"bbbb", ["app-b:v1"], some "lb"⟩] : List Image) ∧
    (∀ r ∈ ["la"], r ∈ walkImageLayers ⟨"aaaa", ["app-a:v1"], some "la"⟩
        (layersById [⟨"base", none, some 1000, none⟩, ⟨"la", some "base", some 200, none⟩,
          ⟨"lb", some "base", some 300, none⟩]) ∧
      ∀ other ∈ ([⟨"aaaa", ["app-a:v1"], some "la"⟩, ⟨"bbbb", ["app-b:v1"], some "lb"⟩] :
          List Image), other ≠ ⟨"aaaa", ["app-a:v1"], some "la"⟩ →
        r ∉ walkImageLayers other (layersById [⟨"base", none, some 1000, none⟩,
          ⟨"la", some "base", some 200, none⟩, ⟨"lb", some "base", some 300, none⟩])) ∧
    ∃ du du', diskUsage [⟨"aaaa", ["app-a:v1"], some "la"⟩, ⟨"bbbb", ["app-b:v1"], some "lb"⟩]
        [⟨"base", none, some 1000, none⟩, ⟨"la", some "base", some 200, none⟩,
          ⟨"lb", some "base", some 300, none⟩] [] = some du ∧
      diskUsage [⟨"bbbb", ["app-b:v1"], some "lb"⟩]
        [⟨"base", none, some 1000, none⟩, ⟨"lb", some "base", some 300, none⟩] [] = some du' := by
  have hwa : walkImageLayers ⟨"aaaa", ["app-a:v1"], some "la"⟩
      (layersById [⟨"base", none, some 1000, none⟩, ⟨"la", some "base", some 200, none⟩,
        ⟨"lb", some "base", some 300, none⟩]) = ["la", "base"] :=
    walkImageLayers_eq_of_walkLoopFuel (by decide)
  have hwb : walkImageLayers ⟨"bbbb", ["app-b:v1"], some "lb"⟩
      (layersById [⟨"base", none, some 1000, none⟩, ⟨"la", some "base", some 200, none⟩,
        ⟨"lb", some "base", some 300, none⟩]) = ["lb", "base"] :=
    walkImageLayers_eq_of_walkLoopFuel (by decide)
  refine ⟨by decide, by decide, ?_⟩
  refine (fun hremoved => ⟨hremoved, ?_⟩) fun r hr => ?_
  · rw [List.mem_singleton.mp hr]
    refine ⟨by rw [hwa]; decide, fun other hother hne => ?_⟩
    rcases List.mem_pair.mp hother with rfl | rfl
    · contradiction
    · rw [hwb]; decide
  · obtain ⟨du, du', h, h', -⟩ :=
      diskUsage_remove_image _ _ [] _ ["la"] (by decide) (by decide) hremoved
    exact ⟨du, du', h, h'⟩

end CrioDf
