import Mathlib.Data.Rat.Defs
import Mathlib.Algebra.Ring.Int.Defs
import CrioDf.Walk
import CrioDf.DisplayName

/-!
# CrioDf.Usage

The uncompressed accounting of `main`: everything it computes between loading the three
JSON files and calling `get_compressed_sizes`, as a function of the images, layers and
volatile-layers lists.

* `countLayers` — the loop that fills `layer_count` and `image_layers`;
* `totalSize` — `total_size`, one size per key of `layer_count`;
* `layerToImage`, `containersPerImage` — the container count of each image;
* `splitSizes`, `imageEntry`, `imageDataLoop` — the per-image loop, with
  `total_reclaimable`;
* `reclaimablePct`;
* `diskUsage` — all of the above. It is an `Option`: `none` is a `KeyError` from
  `layers_by_id[layer_id]` or `image_layers[image_id]`.

Printing the report, `format_size` and `format_time_ago` (which reads the clock, and fills
the `created` column) are not modelled. `reclaimable_pct` is a Python float; it is
modelled as the exact rational quotient.

Each loop has one lemma that gives its result in closed form (`countLayers_getD`,
`totalSize_eq`, `splitSizes_eq`, `imageDataLoop_eq`, `containersPerImage_getD`); the
accounting theorems in `CrioDf.Ownership` are built from these.
-/

namespace CrioDf

/-! ### The model of `main` -/

/-- `layers_by_id[layer_id]` followed by the size rule; `none` is the `KeyError`. -/
def sizeAt? (layersById : Dict String Layer) (layerId : String) : Option Int :=
  (layersById.get? layerId).map layerSize

/-- The first loop of `main`: `image_layers[image_id] = walked_layers`, and
`layer_count[layer_id] += 1` for every layer of the walk. -/
def countLayers (layersById : Dict String Layer) (images : List Image) :
    Dict String Nat × Dict String (List String) :=
  images.foldl (fun acc image =>
    let walkedLayers := walkImageLayers image layersById
    (walkedLayers.foldl (fun layerCount layerId => layerCount.incr layerId) acc.1,
      acc.2.insert image.id walkedLayers)) (Dict.empty, Dict.empty)

/-- `total_size`: the size of every key of `layer_count`, each once. -/
def totalSize (layersById : Dict String Layer) (layerCount : Dict String Nat) : Option Int :=
  layerCount.keys.foldlM (fun total layerId => (sizeAt? layersById layerId).map (total + ·)) 0

/-- `layer_to_image[img.get("layer")] = img["id"]` for every image, the last one winning. -/
def layerToImage (images : List Image) : Dict (Option String) String :=
  images.foldl (fun d image => d.insert image.layer image.id) Dict.empty

/-- `containers_per_image`: a volatile layer whose parent is a key of `layer_to_image`
counts for the image stored there. -/
def containersPerImage (layerToImage : Dict (Option String) String)
    (volatileLayers : List VolatileLayer) : Dict String Nat :=
  volatileLayers.foldl (fun counts container =>
    match layerToImage.get? container.parent with
    | some imageId => counts.incr imageId
    | none => counts) Dict.empty

/-- The inner loop of the per-image loop: `(shared_size, unique_size)`. -/
def splitSizes (layersById : Dict String Layer) (layerCount : Dict String Nat)
    (walkedLayers : List String) : Option (Int × Int) :=
  walkedLayers.foldlM (fun acc layerId => (sizeAt? layersById layerId).map fun size =>
    if layerCount.getD layerId 0 > 1 then (acc.1 + size, acc.2) else (acc.1, acc.2 + size)) (0, 0)

/-- The record `main` appends to `image_data`, without its `created` column. -/
structure ImageData where
  id : String
  repository : String
  tag : String
  size : Int
  sharedSize : Int
  uniqueSize : Int
  containers : Nat
  reclaimable : Int
  deriving Repr, DecidableEq

/-- The record of `image`, from its shared and unique sizes and its container count. -/
def imageRecord (image : Image) (sharedSize uniqueSize : Int) (containerCount : Nat) :
    ImageData where
  id := image.id.take 12
  repository := (getImageDisplayName image).1
  tag := (getImageDisplayName image).2
  size := sharedSize + uniqueSize
  sharedSize := sharedSize
  uniqueSize := uniqueSize
  containers := containerCount
  reclaimable := if containerCount = 0 then uniqueSize else 0

/-- One pass of the per-image loop. -/
def imageEntry (layersById : Dict String Layer) (layerCount : Dict String Nat)
    (imageLayers : Dict String (List String)) (containersPerImage : Dict String Nat)
    (image : Image) : Option ImageData := do
  let walkedLayers ← imageLayers.get? image.id
  let sizes ← splitSizes layersById layerCount walkedLayers
  pure (imageRecord image sizes.1 sizes.2 (containersPerImage.getD image.id 0))

/-- The per-image loop: `image_data` and `total_reclaimable`. -/
def imageDataLoop (layersById : Dict String Layer) (layerCount : Dict String Nat)
    (imageLayers : Dict String (List String)) (containersPerImage : Dict String Nat)
    (images : List Image) : Option (List ImageData × Int) :=
  images.foldlM (fun acc image =>
    (imageEntry layersById layerCount imageLayers containersPerImage image).map fun record =>
      (acc.1 ++ [record], if record.containers = 0 then acc.2 + record.uniqueSize else acc.2))
    ([], 0)

/-- `(total_reclaimable / total_size * 100) if total_size > 0 else 0`. -/
def reclaimablePct (totalReclaimable totalSize : Int) : ℚ :=
  if totalSize > 0 then (totalReclaimable : ℚ) / totalSize * 100 else 0

/-- What `main` computes for the uncompressed part of the report. -/
structure DiskUsage where
  layerCount : Dict String Nat
  totalSize : Int
  containersPerImage : Dict String Nat
  imageData : List ImageData
  totalReclaimable : Int
  reclaimablePct : ℚ

/-- The uncompressed accounting of `main`, `none` on a `KeyError`. -/
def diskUsage (images : List Image) (layers : List Layer) (volatileLayers : List VolatileLayer) :
    Option DiskUsage := do
  let byId := layersById layers
  let counted := countLayers byId images
  let total ← totalSize byId counted.1
  let perImage := containersPerImage (layerToImage images) volatileLayers
  let data ← imageDataLoop byId counted.1 counted.2 perImage images
  pure { layerCount := counted.1, totalSize := total, containersPerImage := perImage,
         imageData := data.1, totalReclaimable := data.2,
         reclaimablePct := reclaimablePct data.2 total }

/-- `du` reports `e` for `image`: `e` is the record at the image's position in `images`. -/
def DiskUsage.Reports (du : DiskUsage) (images : List Image) (image : Image) (e : ImageData) :
    Prop :=
  ∃ i : Nat, images[i]? = some image ∧ du.imageData[i]? = some e

theorem DiskUsage.reports_iff_of_map {du : DiskUsage} {images : List Image}
    {f : Image → ImageData} (h : du.imageData = images.map f) {image : Image} {e : ImageData} :
    du.Reports images image e ↔ image ∈ images ∧ e = f image := by
  simp only [DiskUsage.Reports, h, List.getElem?_map, List.mem_iff_getElem?]
  constructor
  · rintro ⟨i, hi, he⟩
    rw [hi] at he
    exact ⟨⟨i, hi⟩, (Option.some.inj he).symm⟩
  · rintro ⟨⟨i, hi⟩, rfl⟩
    exact ⟨i, hi, by simp [hi]⟩

/-! ### Loops that never raise -/

/-- A `foldlM` in `Option` whose every step succeeds is the plain `foldl`. -/
theorem foldlM_eq_some_foldl {γ δ : Type} {f : δ → γ → Option δ} {g : δ → γ → δ} {xs : List γ}
    (h : ∀ acc, ∀ x ∈ xs, f acc x = some (g acc x)) (init : δ) :
    xs.foldlM f init = some (xs.foldl g init) := by
  induction xs generalizing init with
  | nil => rfl
  | cons x xs ih =>
    simp only [List.foldlM_cons, List.foldl_cons, h init x (List.mem_cons_self _ _), Option.some_bind]
    exact ih (fun acc y hy => h acc y (List.mem_cons_of_mem _ hy)) _

/-- A `foldlM` in `Option` whose every step succeeds, whatever the accumulator, succeeds. -/
theorem foldlM_isSome {γ δ : Type} {f : δ → γ → Option δ} {xs : List γ}
    (h : ∀ acc, ∀ x ∈ xs, (f acc x).isSome) (init : δ) : (xs.foldlM f init).isSome := by
  induction xs generalizing init with
  | nil => rfl
  | cons x xs ih =>
    obtain ⟨a, ha⟩ := Option.isSome_iff_exists.1 (h init x (List.mem_cons_self _ _))
    simp only [List.foldlM_cons, ha, Option.some_bind]
    exact ih (fun acc y hy => h acc y (List.mem_cons_of_mem _ hy)) _

theorem foldl_add_eq {γ : Type} (g : γ → Int) (xs : List γ) (t : Int) :
    xs.foldl (fun total x => total + g x) t = t + (xs.map g).sum := by
  induction xs generalizing t with
  | nil => simp
  | cons x xs ih => simp [ih, Int.add_assoc]

/-- `total_size` when every key of `layer_count` is a key of `layers_by_id`. -/
theorem totalSize_eq {layersById : Dict String Layer} {layerCount : Dict String Nat}
    {g : String → Int} (h : ∀ k ∈ layerCount.keys, sizeAt? layersById k = some (g k)) :
    totalSize layersById layerCount = some (layerCount.keys.map g).sum := by
  rw [totalSize, foldlM_eq_some_foldl (g := fun total k => total + g k) (fun acc k hk => by
    simp [h k hk]), foldl_add_eq, Int.zero_add]

/-- `(shared_size, unique_size)` when every walked id is a key of `layers_by_id`: the sizes of
the layers counted more than once, and of the others. -/
theorem splitSizes_eq {layersById : Dict String Layer} {layerCount : Dict String Nat}
    {walkedLayers : List String} {g : String → Int}
    (h : ∀ k ∈ walkedLayers, sizeAt? layersById k = some (g k)) :
    splitSizes layersById layerCount walkedLayers =
      some (((walkedLayers.filter (layerCount.getD · 0 > 1)).map g).sum,
        ((walkedLayers.filter (layerCount.getD · 0 ≤ 1)).map g).sum) := by
  let step := fun (acc : Int × Int) k =>
    if layerCount.getD k 0 > 1 then (acc.1 + g k, acc.2) else (acc.1, acc.2 + g k)
  have hfold : ∀ (ws : List String) (a b : Int), ws.foldl step (a, b) =
      (a + ((ws.filter (layerCount.getD · 0 > 1)).map g).sum,
        b + ((ws.filter (layerCount.getD · 0 ≤ 1)).map g).sum) := by
    intro ws
    induction ws with
    | nil => simp
    | cons k ws ih =>
      intro a b
      by_cases hk : layerCount.getD k 0 > 1
      · simp [step, hk, ih, List.filter_cons, Int.add_assoc, Nat.not_le.mpr hk]
      · simp [step, hk, ih, List.filter_cons, Int.add_assoc, Nat.le_of_not_gt hk]
  rw [splitSizes, foldlM_eq_some_foldl (g := step) (fun acc k hk => by
    simp only [h k hk, Option.map_some', step]), hfold]
  simp

theorem imageRecord_reclaimable_step (image : Image) (sharedSize uniqueSize : Int) (n : Nat)
    (t : Int) :
    (if (imageRecord image sharedSize uniqueSize n).containers = 0 then
        t + (imageRecord image sharedSize uniqueSize n).uniqueSize else t) =
      t + (imageRecord image sharedSize uniqueSize n).reclaimable := by
  by_cases hn : n = 0 <;> simp [imageRecord, hn]

/-- `reclaimable` is the unique size or nothing: between `0` and a non-negative unique size. -/
theorem imageRecord_reclaimable_mem (image : Image) (sharedSize : Int) {uniqueSize : Int}
    (n : Nat) (hu : 0 ≤ uniqueSize) :
    0 ≤ (imageRecord image sharedSize uniqueSize n).reclaimable ∧
      (imageRecord image sharedSize uniqueSize n).reclaimable ≤ uniqueSize := by
  simp only [imageRecord]
  split <;> omega

/-- The per-image loop when every pass succeeds: one record per image, in order, and
`total_reclaimable` is the sum of their `reclaimable` fields. -/
theorem imageDataLoop_eq {layersById : Dict String Layer} {layerCount : Dict String Nat}
    {imageLayers : Dict String (List String)} {containersPerImage : Dict String Nat}
    {images : List Image} {shared unique : Image → Int} {count : Image → Nat}
    (h : ∀ image ∈ images, imageEntry layersById layerCount imageLayers containersPerImage image =
      some (imageRecord image (shared image) (unique image) (count image))) :
    imageDataLoop layersById layerCount imageLayers containersPerImage images =
      some (images.map fun image => imageRecord image (shared image) (unique image) (count image),
        (images.map fun image =>
          (imageRecord image (shared image) (unique image) (count image)).reclaimable).sum) := by
  let record := fun image => imageRecord image (shared image) (unique image) (count image)
  let step := fun (acc : List ImageData × Int) image =>
    (acc.1 ++ [record image], acc.2 + (record image).reclaimable)
  have hfold : ∀ (xs : List Image) (l : List ImageData) (t : Int), xs.foldl step (l, t) =
      (l ++ xs.map record, t + (xs.map fun image => (record image).reclaimable).sum) := by
    intro xs
    induction xs with
    | nil => simp
    | cons x xs ih => intro l t; simp [step, ih, Int.add_assoc]
  rw [imageDataLoop, foldlM_eq_some_foldl (g := step) (fun acc image himage => by
    simp only [h image himage, Option.map_some', step, record, imageRecord_reclaimable_step]),
    hfold]
  simp [record]

/-! ### The dicts of `main` -/

theorem countLayers_foldl (layersById : Dict String Layer) (images : List Image)
    (acc : Dict String Nat × Dict String (List String)) :
    images.foldl (fun acc image =>
        ((walkImageLayers image layersById).foldl (fun c k => c.incr k) acc.1,
          acc.2.insert image.id (walkImageLayers image layersById))) acc =
      (images.foldl (fun c image => (walkImageLayers image layersById).foldl
          (fun c k => c.incr k) c) acc.1,
        images.foldl (fun m image => m.insert image.id (walkImageLayers image layersById)) acc.2) := by
  induction images generalizing acc with
  | nil => rfl
  | cons image images ih => exact ih _

/-- `layer_count[k]` is the number of images whose walk contains `k`. -/
theorem countLayers_getD (layersById : Dict String Layer) (images : List Image) (k : String) :
    (countLayers layersById images).1.getD k 0 =
      images.countP (fun image => k ∈ walkImageLayers image layersById) := by
  have : ∀ (c : Dict String Nat), (images.foldl (fun c image =>
      (walkImageLayers image layersById).foldl (fun c k => c.incr k) c) c).getD k 0 =
      c.getD k 0 + images.countP (fun image => k ∈ walkImageLayers image layersById) := by
    induction images with
    | nil => simp
    | cons image images ih =>
      intro c
      have hw := Dict.getD_foldl_incr (fun x => x) (walkImageLayers image layersById) c k
      have hcount : (walkImageLayers image layersById).countP (· = k) =
          if k ∈ walkImageLayers image layersById then 1 else 0 := by
        rw [← List.count_eq_of_nodup (nodup_walkImageLayers image layersById), List.count]
        exact List.countP_congr fun x _ => by simp
      rw [hcount] at hw
      rw [List.foldl_cons, ih, hw, List.countP_cons]
      by_cases hk : k ∈ walkImageLayers image layersById
      · simp [hk]; omega
      · simp [hk]
  rw [countLayers, countLayers_foldl, this]
  simp [Dict.getD]

/-- The keys of `layer_count` are the ids of all walks. -/
theorem mem_countLayers_keys (layersById : Dict String Layer) (images : List Image) (k : String) :
    k ∈ (countLayers layersById images).1.keys ↔
      ∃ image ∈ images, k ∈ walkImageLayers image layersById := by
  have : ∀ (c : Dict String Nat), k ∈ (images.foldl (fun c image =>
      (walkImageLayers image layersById).foldl (fun c k => c.incr k) c) c).keys ↔
      (∃ image ∈ images, k ∈ walkImageLayers image layersById) ∨ k ∈ c.keys := by
    induction images with
    | nil => simp
    | cons image images ih =>
      intro c
      rw [List.foldl_cons, ih, Dict.mem_keys_foldl_incr (fun x => x)]
      simp only [List.mem_cons, exists_eq_or_imp, exists_eq_right]
      constructor
      · rintro (h | h | h) <;> simp [h]
      · rintro ((h | h) | h) <;> simp [h]
  rw [countLayers, countLayers_foldl, this]
  simp

/-- With distinct image ids, `image_layers[image["id"]]` is the image's walk. -/
theorem countLayers_get?_id {layersById : Dict String Layer} {images : List Image}
    (hid : (images.map Image.id).Nodup) {image : Image} (himage : image ∈ images) :
    (countLayers layersById images).2.get? image.id = some (walkImageLayers image layersById) := by
  rw [countLayers, countLayers_foldl, Dict.get?_foldl_insert]
  have hfind : images.reverse.find? (·.id = image.id) = some image :=
    (find?_key_eq_some (by simpa using List.nodup_reverse.mpr hid)).mpr
      ⟨List.mem_reverse.mpr himage, rfl⟩
  simp [hfind]

/-- `layer_to_image[k]`: the id of the last image with top layer `k`. -/
theorem layerToImage_get? (images : List Image) (k : Option String) :
    (layerToImage images).get? k = (images.reverse.find? (·.layer = k)).map Image.id := by
  simp [layerToImage, Dict.get?_foldl_insert]

/-- `containers_per_image[image_id]` counts the volatile layers whose parent
`layer_to_image` sends to `image_id`. -/
theorem containersPerImage_getD (layerToImage : Dict (Option String) String)
    (volatileLayers : List VolatileLayer) (imageId : String) :
    (containersPerImage layerToImage volatileLayers).getD imageId 0 =
      volatileLayers.countP (fun c => layerToImage.get? c.parent = some imageId) := by
  have : ∀ (counts : Dict String Nat), (volatileLayers.foldl (fun counts container =>
      match layerToImage.get? container.parent with
      | some imageId => counts.incr imageId
      | none => counts) counts).getD imageId 0 =
      counts.getD imageId 0 +
        volatileLayers.countP (fun c => layerToImage.get? c.parent = some imageId) := by
    induction volatileLayers with
    | nil => simp
    | cons c cs ih =>
      intro counts
      rw [List.foldl_cons, ih, List.countP_cons]
      cases hc : layerToImage.get? c.parent with
      | none => simp
      | some other =>
        by_cases h : imageId = other
        · subst h; simp; omega
        · simp [h, Ne.symm h]
  rw [containersPerImage, this]
  simp [Dict.getD]

/-- An image without a top layer takes every container without a parent: both give the
key `None` of `layer_to_image`. -/
theorem containersPerImage_counts_parentless :
    (containersPerImage (layerToImage [⟨"aaaa", [], none⟩]) [⟨none⟩]).getD "aaaa" 0 = 1 := by
  decide

end CrioDf
