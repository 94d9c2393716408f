import CrioDf.Ownership

/-!
# CrioDf.Containers

The CONTAINERS column. `main` attributes every volatile layer whose `parent` is a key of
`layer_to_image` to the image stored there, the last image with that top layer.

With distinct image ids no container is counted twice: the column sums to the number of
volatile layers whose parent is some image's top layer (`None` matching an image without
one), never more than the containers total the summary prints. Starting more containers
changes no size; it only raises the count of the image each new container is attributed
to, so RECLAIMABLE can only fall.

## Proof shape

`containersPerImage_getD` gives each count as a `countP` over the volatile layers. Summed
over the images, one volatile layer adds the number of images whose id `layer_to_image`
sends its parent to, which is one or zero (`countP_layerToImage_get?`).

## Main results

* `diskUsage_containers_sum`: the column sums to the attributed volatile layers;
* `diskUsage_add_containers`: new containers change no size and only raise counts.
-/

namespace CrioDf

/-- With distinct ids, `layer_to_image[parent]` names one image when `parent` is some image's
top layer, and none otherwise. -/
theorem countP_layerToImage_get? {images : List Image} (hid : (images.map Image.id).Nodup)
    (p : Option String) :
    images.countP (fun image => (layerToImage images).get? p = some image.id) =
      if p ∈ images.map Image.layer then 1 else 0 := by
  rw [layerToImage_get?]
  cases hfind : images.reverse.find? (·.layer = p) with
  | none =>
    have hnot : p ∉ images.map Image.layer := fun hp => by
      obtain ⟨image, himage, rfl⟩ := List.mem_map.mp hp
      simpa using List.find?_eq_none.mp hfind image (List.mem_reverse.mpr himage)
    simp [hnot]
  | some image =>
    have himage := List.mem_reverse.mp (List.mem_of_find?_eq_some hfind)
    have hlayer : image.layer = p := by simpa using List.find?_some hfind
    have hcount := List.count_eq_one_of_mem hid (List.mem_map_of_mem Image.id himage)
    rw [List.count, List.countP_map] at hcount
    simp only [Option.map_some', Option.some.injEq, ← hlayer, List.mem_map_of_mem _ himage,
      if_true]
    rw [← hcount]
    exact List.countP_congr fun _ _ => by
      simp only [decide_eq_true_eq, Function.comp_apply, beq_iff_eq]
      exact eq_comm

/-- Summed over images with distinct ids, `containers_per_image` counts every volatile layer
whose parent is some image's top layer, once. -/
theorem sum_containersPerImage_getD {images : List Image} (hid : (images.map Image.id).Nodup)
    (volatileLayers : List VolatileLayer) :
    (images.map fun image =>
        (containersPerImage (layerToImage images) volatileLayers).getD image.id 0).sum =
      volatileLayers.countP (fun c => c.parent ∈ images.map Image.layer) := by
  simp only [containersPerImage_getD]
  induction volatileLayers with
  | nil => simp
  | cons c cs ih =>
    simp only [List.countP_cons, List.sum_map_add, ih, decide_eq_true_eq]
    rw [← countP_layerToImage_get? hid c.parent]
    simp [List.sum_map_ite, List.countP_eq_length_filter]

/-- With distinct image ids, the CONTAINERS column sums to the number of volatile layers
whose parent is some image's top layer, so it never exceeds the number of volatile
layers. -/
theorem diskUsage_containers_sum (images : List Image) (layers : List Layer)
    (volatileLayers : List VolatileLayer) (hid : (images.map Image.id).Nodup) :
    ∃ du, diskUsage images layers volatileLayers = some du ∧
      (du.imageData.map ImageData.containers).sum =
        volatileLayers.countP (fun c => c.parent ∈ images.map Image.layer) ∧
      (du.imageData.map ImageData.containers).sum ≤ volatileLayers.length := by
  have hsum : ((expectedUsage images layers volatileLayers).imageData.map
      ImageData.containers).sum =
      volatileLayers.countP (fun c => c.parent ∈ images.map Image.layer) := by
    simp only [expectedUsage, imageRecord, List.map_map, Function.comp_def]
    exact sum_containersPerImage_getD hid volatileLayers
  exact ⟨_, diskUsage_eq layers volatileLayers hid, hsum, hsum ▸ List.countP_le_length _⟩

/-- Two images on one top layer with a container on it, and a container on no image. -/
theorem diskUsage_containers_sum_shared_top :
    (([⟨"aaaa", ["app:v1"], some "top"⟩, ⟨"bbbb", ["app:v2"], some "top"⟩] : List Image).map
      Image.id).Nodup ∧
    ∃ du, diskUsage [⟨"aaaa", ["app:v1"], some "top"⟩, ⟨"bbbb", ["app:v2"], some "top"⟩]
        [⟨"top", none, some 10, none⟩] [⟨some "top"⟩, ⟨some "gone"⟩] = some du ∧
      (du.imageData.map ImageData.containers).sum = 1 :=
  ⟨by decide, (diskUsage_containers_sum _ _ _ (by decide)).imp fun _ h =>
    ⟨h.1, h.2.1.trans (by decide)⟩⟩

/-- Starting containers (appending volatile layers) changes no size and no layer count:
each image's CONTAINERS grows by the new volatile layers attributed to it, and with
non-negative layer sizes RECLAIMABLE does not rise. -/
theorem diskUsage_add_containers (images : List Image) (layers : List Layer)
    (volatileLayers extra : List VolatileLayer) (hid : (images.map Image.id).Nodup) :
    ∃ du du', diskUsage images layers volatileLayers = some du ∧
      diskUsage images layers (volatileLayers ++ extra) = some du' ∧
      du'.totalSize = du.totalSize ∧ du'.layerCount = du.layerCount ∧
      (∀ image e e', du.Reports images image e → du'.Reports images image e' →
        e'.size = e.size ∧ e'.sharedSize = e.sharedSize ∧ e'.uniqueSize = e.uniqueSize ∧
        e'.containers = e.containers +
          extra.countP (fun c => (layerToImage images).get? c.parent = some image.id)) ∧
      ((∀ layer ∈ layers, 0 ≤ layerSize layer) → du'.totalReclaimable ≤ du.totalReclaimable) := by
  have hcount : ∀ image : Image,
      (containersPerImage (layerToImage images) (volatileLayers ++ extra)).getD image.id 0 =
        (containersPerImage (layerToImage images) volatileLayers).getD image.id 0 +
          extra.countP (fun c => (layerToImage images).get? c.parent = some image.id) := by
    intro image
    simp only [containersPerImage_getD, List.countP_append]
  refine ⟨_, _, diskUsage_eq layers volatileLayers hid,
    diskUsage_eq layers (volatileLayers ++ extra) hid, rfl, rfl, ?_, fun hnn => ?_⟩
  · intro image e e' he he'
    obtain ⟨-, rfl⟩ := (DiskUsage.reports_iff_of_map rfl).mp he
    obtain ⟨-, rfl⟩ := (DiskUsage.reports_iff_of_map rfl).mp he'
    exact ⟨rfl, rfl, rfl, hcount image⟩
  · simp only [expectedUsage, imageRecord]
    refine List.sum_le_sum fun image _ => ?_
    have hu : 0 ≤ uniqueBytes (layersById layers) images image :=
      Finset.sum_nonneg fun l _ => layerSizeOf_nonneg hnn l
    rw [hcount image]
    split_ifs <;> omega

/-- A container started on the top layer of an image that had none. -/
theorem diskUsage_add_containers_on_top :
    (([⟨"aaaa", ["app-a:v1"], some "la"⟩, ⟨"bbbb", ["app-b:v1"], some "lb"⟩] : List Image).map
      Image.id).Nodup ∧
    ∃ du du', diskUsage [⟨"aaaa", ["app-a:v1"], some "la"⟩, ⟨"bbbb", ["app-b:v1"], some "lb"⟩]
        [⟨"base", none, some 1000, none⟩, ⟨"la", some "base", some 200, none⟩,
          ⟨"lb", some "base", some 300, none⟩] [⟨some "lb"⟩] = some du ∧
      diskUsage [⟨"aaaa", ["app-a:v1"], some "la"⟩, ⟨"bbbb", ["app-b:v1"], some "lb"⟩]
        [⟨"base", none, some 1000, none⟩, ⟨"la", some "base", some 200, none⟩,
          ⟨"lb", some "base", some 300, none⟩] ([⟨some "lb"⟩] ++ [⟨some "la"⟩]) = some du' ∧
      du'.totalReclaimable ≤ du.totalReclaimable :=
  ⟨by decide, (diskUsage_add_containers _ _ _ _ (by decide)).imp fun _ h =>
    h.imp fun _ h' => ⟨h'.1, h'.2.1, h'.2.2.2.2.2 (by decide)⟩⟩

end CrioDf
