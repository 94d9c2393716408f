import CrioDf.Ownership

/-!
# CrioDf.Permutation

The order of the three input lists, as two runs of `main`'s accounting on permuted
inputs.

With distinct layer ids, `layers_by_id` answers the same lookups in any order
(`layersById_get?_perm`), so every walk is the same (`walk_perm`), and so are the use
counts, the store and the shared and unique bytes. The container counts are not:
`layer_to_image` keeps the last image with a given top layer, so two images that share a
top layer can trade their containers when the images list is reordered. That never
reaches a byte figure. Two images with the same top layer have the same walk, so their
unique bytes are `0` (`uniqueBytes_eq_zero_of_shared_top`) and neither can reclaim
anything, containers or not; an image whose top layer is its own gets the same count in
every order (`layerToImage_get?_eq_some_iff`).

## Main result

`diskUsage_perm`: permuting the images, layers and volatile-layers lists changes no
image's size, shared, unique or reclaimable bytes, and neither the store total, the
reclaimable total nor the percentage.
-/

namespace CrioDf

open Finset

/-! ### The walks do not see the order -/

theorem walk_perm {layers layers' : List Layer} (hlid : (layers.map Layer.id).Nodup)
    (hlayers : layers.Perm layers') (image : Image) :
    walkImageLayers image (layersById layers') = walkImageLayers image (layersById layers) :=
  walkLoop_congr _ (fun k hk => by rw [layersById_get?_perm hlid hlayers, hk])
    fun k _ => layersById_get?_perm hlid hlayers k

section Perm

variable {images images' : List Image} {layers layers' : List Layer}
  (hlid : (layers.map Layer.id).Nodup) (himages : images.Perm images')
  (hlayers : layers.Perm layers')
include hlid himages hlayers

theorem useCount_perm (l : String) :
    useCount (layersById layers') images' l = useCount (layersById layers) images l := by
  simp only [useCount, walk_perm hlid hlayers, himages.countP_eq]

omit himages in
theorem layerSizeOf_perm (l : String) :
    layerSizeOf (layersById layers') l = layerSizeOf (layersById layers) l := by
  simp only [layerSizeOf, sizeAt?, layersById_get?_perm hlid hlayers]

theorem storeBytes_perm :
    storeBytes (layersById layers') images' = storeBytes (layersById layers) images := by
  have hstore : storeLayers (layersById layers') images' = storeLayers (layersById layers) images := by
    ext l
    simp only [mem_storeLayers, walk_perm hlid hlayers, himages.mem_iff]
  simp only [storeBytes, hstore, layerSizeOf_perm hlid hlayers]

theorem sharedBytes_perm (image : Image) :
    sharedBytes (layersById layers') images' image = sharedBytes (layersById layers) images image := by
  simp only [sharedBytes, walk_perm hlid hlayers, useCount_perm hlid himages hlayers,
    layerSizeOf_perm hlid hlayers]

theorem uniqueBytes_perm (image : Image) :
    uniqueBytes (layersById layers') images' image = uniqueBytes (layersById layers) images image := by
  simp only [uniqueBytes, walk_perm hlid hlayers, useCount_perm hlid himages hlayers,
    layerSizeOf_perm hlid hlayers]

end Perm

/-! ### Containers of images that share a top layer -/

/-- Two distinct images with one top layer walk the same chain, so neither has unique
bytes. -/
theorem uniqueBytes_eq_zero_of_shared_top {layersById : Dict String Layer} {images : List Image}
    (hnd : images.Nodup) {image other : Image} (himage : image ∈ images) (hother : other ∈ images)
    (hne : other ≠ image) (hlayer : other.layer = image.layer) :
    uniqueBytes layersById images image = 0 := by
  refine sum_eq_zero fun l hl => absurd (mem_filter.mp hl).2 (Nat.not_le.mpr ?_)
  have hwalk := List.mem_toFinset.mp (mem_filter.mp hl).1
  exact (one_lt_useCount_iff layersById images hnd himage hwalk).mpr
    ⟨other, hother, hne, walkImageLayers_eq_of_layer_eq hlayer layersById ▸ hwalk⟩

/-- An image whose top layer no other image has is where `layer_to_image` sends that layer,
and only that layer. -/
theorem layerToImage_get?_eq_some_iff {images : List Image} (hid : (images.map Image.id).Nodup)
    {image : Image} (himage : image ∈ images)
    (hsole : ∀ other ∈ images, other.layer = image.layer → other = image) (p : Option String) :
    (layerToImage images).get? p = some image.id ↔ p = image.layer := by
  rw [layerToImage_get?]
  constructor
  · intro h
    obtain ⟨other, hfind, hid'⟩ := Option.map_eq_some'.mp h
    have hmem := List.mem_reverse.mp (List.mem_of_find?_eq_some hfind)
    have hp : other.layer = p := by simpa using List.find?_some hfind
    rw [← hp, List.inj_on_of_nodup_map hid hmem himage hid']
  · rintro rfl
    have hsome : (images.reverse.find? (·.layer = image.layer)).isSome :=
      List.find?_isSome.mpr ⟨image, List.mem_reverse.mpr himage, by simp⟩
    obtain ⟨other, hfind⟩ := Option.isSome_iff_exists.mp hsome
    have hmem := List.mem_reverse.mp (List.mem_of_find?_eq_some hfind)
    have hlayer : other.layer = image.layer := by simpa using List.find?_some hfind
    rw [hfind, hsole other hmem hlayer]
    rfl

/-- The reclaimable bytes of an image are the same whatever the order of the three lists. -/
theorem reclaimable_perm {images images' : List Image} {layers layers' : List Layer}
    {volatileLayers volatileLayers' : List VolatileLayer} (hid : (images.map Image.id).Nodup)
    (hlid : (layers.map Layer.id).Nodup) (himages : images.Perm images')
    (hlayers : layers.Perm layers') (hvolatile : volatileLayers.Perm volatileLayers')
    {image : Image} (himage : image ∈ images) :
    (imageRecord image (sharedBytes (layersById layers') images' image)
        (uniqueBytes (layersById layers') images' image)
        ((containersPerImage (layerToImage images') volatileLayers').getD image.id 0)).reclaimable =
      (imageRecord image (sharedBytes (layersById layers) images image)
        (uniqueBytes (layersById layers) images image)
        ((containersPerImage (layerToImage images) volatileLayers).getD image.id 0)).reclaimable := by
  simp only [imageRecord, uniqueBytes_perm hlid himages hlayers]
  by_cases hshared : ∃ other ∈ images, other ≠ image ∧ other.layer = image.layer
  · obtain ⟨other, hother, hne, hlayer⟩ := hshared
    rw [uniqueBytes_eq_zero_of_shared_top (List.Nodup.of_map Image.id hid) himage hother hne hlayer]
    simp
  · have hsole : ∀ other ∈ images, other.layer = image.layer → other = image := fun other ho hl =>
      by_contra fun hne => hshared ⟨other, ho, hne, hl⟩
    have hid' : (images'.map Image.id).Nodup := hid.perm (himages.map Image.id)
    have hcount : ∀ {imgs : List Image} {vols : List VolatileLayer}, (imgs.map Image.id).Nodup →
        imgs.Perm images → vols.Perm volatileLayers →
        (containersPerImage (layerToImage imgs) vols).getD image.id 0 =
          volatileLayers.countP (fun c => c.parent = image.layer) := by
      intro imgs vols hnd hp hv
      rw [containersPerImage_getD, hv.countP_eq]
      refine List.countP_congr fun c _ => ?_
      simp only [decide_eq_true_eq]
      exact layerToImage_get?_eq_some_iff hnd (hp.mem_iff.mpr himage)
        (fun other ho => hsole other (hp.mem_iff.mp ho)) c.parent
    rw [hcount hid' himages.symm hvolatile.symm, hcount hid (List.Perm.refl _) (List.Perm.refl _)]

/-! ### The report -/

/-- The reclaimable total is the same whatever the order of the three lists. -/
theorem totalReclaimable_perm {images images' : List Image} {layers layers' : List Layer}
    {volatileLayers volatileLayers' : List VolatileLayer} (hid : (images.map Image.id).Nodup)
    (hlid : (layers.map Layer.id).Nodup) (himages : images.Perm images')
    (hlayers : layers.Perm layers') (hvolatile : volatileLayers.Perm volatileLayers') :
    (expectedUsage images' layers' volatileLayers').totalReclaimable =
      (expectedUsage images layers volatileLayers).totalReclaimable := by
  simp only [expectedUsage]
  rw [← (himages.map _).sum_eq]
  exact congrArg List.sum (List.map_congr_left fun image himage =>
    reclaimable_perm hid hlid himages hlayers hvolatile himage)

/-- Permuting the images, the layers (with distinct ids) and the volatile layers changes no
byte figure of the report: each image keeps its size, shared, unique and reclaimable
bytes, and the store total, the reclaimable total and the percentage stay. -/
theorem diskUsage_perm (images images' : List Image) (layers layers' : List Layer)
    (volatileLayers volatileLayers' : List VolatileLayer)
    (hid : (images.map Image.id).Nodup) (hlid : (layers.map Layer.id).Nodup)
    (himages : images.Perm images') (hlayers : layers.Perm layers')
    (hvolatile : volatileLayers.Perm volatileLayers') :
    ∃ du du', diskUsage images layers volatileLayers = some du ∧
      diskUsage images' layers' volatileLayers' = some du' ∧
      du.totalSize = du'.totalSize ∧ du.totalReclaimable = du'.totalReclaimable ∧
      du.reclaimablePct = du'.reclaimablePct ∧
      du.imageData.length = images.length ∧ du'.imageData.length = images.length ∧
      ∀ image e e', du.Reports images image e → du'.Reports images' image e' →
        e.size = e'.size ∧ e.sharedSize = e'.sharedSize ∧ e.uniqueSize = e'.uniqueSize ∧
          e.reclaimable = e'.reclaimable := by
  have hid' : (images'.map Image.id).Nodup := hid.perm (himages.map Image.id)
  have hrec := totalReclaimable_perm hid hlid himages hlayers hvolatile
  have hstore := storeBytes_perm hlid himages hlayers
  refine ⟨_, _, diskUsage_eq layers volatileLayers hid, diskUsage_eq layers' volatileLayers' hid',
    hstore.symm, hrec.symm, congrArg₂ reclaimablePct hrec.symm hstore.symm,
    by simp [expectedUsage], by simp [expectedUsage, himages.length_eq], ?_⟩
  · intro image e e' he he'
    obtain ⟨himage, rfl⟩ := (DiskUsage.reports_iff_of_map rfl).mp he
    obtain ⟨-, rfl⟩ := (DiskUsage.reports_iff_of_map rfl).mp he'
    have hr := reclaimable_perm hid hlid himages hlayers hvolatile himage
    simp only [imageRecord, sharedBytes_perm hlid himages hlayers,
      uniqueBytes_perm hlid himages hlayers, true_and] at hr ⊢
    exact hr.symm

/-- Two images on one top layer with a container, listed in both orders. -/
theorem diskUsage_perm_shared_top :
    (([⟨"aaaa", ["app:v1"], some "top"⟩, ⟨"bbbb", ["app:v2"], some "top"⟩] : List Image).map
      Image.id).Nodup ∧
    (([⟨"top", some "base", some 10, none⟩, ⟨"base", none, none, some 90⟩] : List Layer).map
      Layer.id).Nodup ∧
    ([⟨"aaaa", ["app:v1"], some "top"⟩, ⟨"bbbb", ["app:v2"], some "top"⟩] : List Image).Perm
      [⟨"bbbb", ["app:v2"], some "top"⟩, ⟨"aaaa", ["app:v1"], some "top"⟩] ∧
    ([⟨"top", some "base", some 10, none⟩, ⟨"base", none, none, some 90⟩] : List Layer).Perm
      [⟨"base", none, none, some 90⟩, ⟨"top", some "base", some 10, none⟩] ∧
    ∃ du du', diskUsage [⟨"aaaa", ["app:v1"], some "top"⟩, ⟨"bbbb", ["app:v2"], some "top"⟩]
        [⟨"top", some "base", some 10, none⟩, ⟨"base", none, none, some 90⟩] [⟨some "top"⟩] =
        some du ∧
      diskUsage [⟨"bbbb", ["app:v2"], some "top"⟩, ⟨"aaaa", ["app:v1"], some "top"⟩]
        [⟨"base", none, none, some 90⟩, ⟨"top", some "base", some 10, none⟩] [⟨some "top"⟩] =
        some du' := by
  refine ⟨by decide, by decide, by decide, by decide, ?_⟩
  refine (diskUsage_perm _ _ _ _ _ _ ?_ ?_ ?_ ?_ (List.Perm.refl _)).imp
    fun du ⟨du', h, h', _⟩ => ⟨du', h, h'⟩
  all_goals decide

end CrioDf
