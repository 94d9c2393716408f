import CrioDf.Ownership

/-!
# CrioDf.RepeatedIds

The accounting when two image records share an id, which the refinement `diskUsage_eq`
leaves out. `image_layers[image_id]` keeps the walk of the last record with the id, while
`layer_count` counts the walk of every record. So every record's row is computed from the
walk of the last record with its id, against use counts over all records; `total_size`
still counts every record's walk.

## Main results

* `diskUsage_eq_lastWithId`: `diskUsage` for every input, ids repeated or not.
-/

namespace CrioDf

open Finset

/-- The last record of `images` with the id of `image`, whose walk `image_layers` keeps. -/
def lastWithId (images : List Image) (image : Image) : Image :=
  (images.reverse.find? (·.id = image.id)).getD image

/-- `image_layers[image_id]` is the walk of the last record with that id. -/
theorem countLayers_get?_id_last (layersById : Dict String Layer) {images : List Image}
    {image : Image} (himage : image ∈ images) :
    (countLayers layersById images).2.get? image.id =
      some (walkImageLayers (lastWithId images image) layersById) := by
  rw [countLayers, countLayers_foldl, Dict.get?_foldl_insert, lastWithId]
  cases hfind : images.reverse.find? (·.id = image.id) with
  | none => simpa using List.find?_eq_none.1 hfind image (List.mem_reverse.2 himage)
  | some last => simp

/-- The keys of `layer_count` are the layers some walk reaches. -/
theorem keys_toFinset_countLayers (layersById : Dict String Layer) (images : List Image) :
    (countLayers layersById images).1.keys.toFinset = storeLayers layersById images := by
  ext k
  simp [mem_countLayers_keys, mem_storeLayers]

/-- `total_size` is the bytes of every record's walk, each layer once, whatever the ids. -/
theorem totalSize_countLayers (layersById : Dict String Layer) (images : List Image) :
    totalSize layersById (countLayers layersById images).1 = some (storeBytes layersById images) := by
  rw [totalSize_eq (g := layerSizeOf layersById) fun k hk => by
    obtain ⟨image, -, hw⟩ := (mem_countLayers_keys layersById images k).mp hk
    exact sizeAt?_of_mem_walk layersById hw]
  rw [← List.sum_toFinset _ (Dict.keys_nodup _), keys_toFinset_countLayers, storeBytes]

/-- For every input, ids repeated or not, `main`'s accounting never raises; `total_size` is
the bytes of all walks, and each record's row takes its shared and unique sizes from the
walk of the last record with its id, counted against every record's walk. -/
theorem diskUsage_eq_lastWithId (images : List Image) (layers : List Layer)
    (volatileLayers : List VolatileLayer) :
    ∃ du, diskUsage images layers volatileLayers = some du ∧
      du.totalSize = storeBytes (layersById layers) images ∧
      du.imageData = images.map fun image =>
        imageRecord image (sharedBytes (layersById layers) images (lastWithId images image))
          (uniqueBytes (layersById layers) images (lastWithId images image))
          (du.containersPerImage.getD image.id 0) := by
  set byId := layersById layers
  have hentry : ∀ image ∈ images, imageEntry byId (countLayers byId images).1
      (countLayers byId images).2 (containersPerImage (layerToImage images) volatileLayers) image =
      some (imageRecord image (sharedBytes byId images (lastWithId images image))
        (uniqueBytes byId images (lastWithId images image))
        ((containersPerImage (layerToImage images) volatileLayers).getD image.id 0)) := by
    intro image himage
    have hsplit : splitSizes byId (countLayers byId images).1
        (walkImageLayers (lastWithId images image) byId) =
        some (sharedBytes byId images (lastWithId images image),
          uniqueBytes byId images (lastWithId images image)) := by
      rw [splitSizes_eq fun k hk => sizeAt?_of_mem_walk byId hk]
      simp only [countLayers_getD]
      rw [sum_filter_walk_eq, sum_filter_walk_eq]
      rfl
    simp only [imageEntry, countLayers_get?_id_last byId himage, Option.bind_eq_bind,
      Option.some_bind, hsplit]
    rfl
  simp only [diskUsage, totalSize_countLayers, imageDataLoop_eq hentry, Option.bind_eq_bind,
    Option.some_bind, Option.pure_def, Option.some.injEq, exists_eq_left', true_and]

/-- Two records with one id: both rows report the second record's layer, and the first
record's layer counts in `total_size` but in no row. -/
example :
    (diskUsage [⟨"aaaa", ["app:v1"], some "la"⟩, ⟨"aaaa", ["app:v2"], some "lb"⟩]
        [⟨"la", none, some 100, none⟩, ⟨"lb", none, some 200, none⟩] []).map
      (fun du => (du.totalSize, du.imageData.map (·.uniqueSize))) = some (300, [200, 200]) := by
  have hwa : walkImageLayers ⟨"aaaa", ["app:v1"], some "la"⟩
      (layersById [⟨"la", none, some 100, none⟩, ⟨"lb", none, some 200, none⟩]) = ["la"] :=
    walkImageLayers_eq_of_walkLoopFuel (by decide)
  have hwb : walkImageLayers ⟨"aaaa", ["app:v2"], some "lb"⟩
      (layersById [⟨"la", none, some 100, none⟩, ⟨"lb", none, some 200, none⟩]) = ["lb"] :=
    walkImageLayers_eq_of_walkLoopFuel (by decide)
  simp only [diskUsage, countLayers, List.foldl, hwa, hwb]
  rfl

end CrioDf
