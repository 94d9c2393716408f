import Mathlib.Algebra.BigOperators.Group.List
import Mathlib.Algebra.Ring.Int.Defs
import CrioDf.Json
import CrioDf.DisplayName

/-!
# CrioDf.Compressed

`get_compressed_sizes`: the registry manifests under `IMAGES_DIR`, read image by image,
giving each image's compressed download size and the digest maps the report prints.

The model keeps the loop's order of effects. An image with no manifest file, or whose
manifest is falsy, is skipped (`continue`); otherwise every element of the manifest's
`layers` is read by `scanLayer`, which raises as Python does on the first `.get`, `+=` or
dict store it cannot do. Nothing catches these exceptions, so the whole call then raises.

## Proof shape

Each loop body gets one inversion lemma (`scanLayer_eq_ok`, `scanImage_eq_ok`) saying
everything a successful pass can do; the run lemmas `LayerScan.Tracks` and
`CompressedScan.Tracks` are derived from those alone, through the generic `Except` fold
lemmas `foldlM_except_induction` (an invariant of the processed prefix) and
`foldlM_except_ok_iff`.

## Main results

* `getCompressedSizes_tracks`: `all_layers` and `layer_usage` are the last-write and the
  count over every manifest entry recorded in `per_image`, and each image's `compressed`
  is the sum of its entries' sizes;
* `getCompressedSizes_perImage`: `per_image` records exactly the images whose manifest file
  exists and is truthy, in order;
* `getCompressedSizes_layerUsage`: `layer_usage[d]` counts manifest entries, not images.
-/

namespace CrioDf

/-! ### Folds in `Except` -/

section ExceptFold

variable {ε σ α β : Type}

theorem except_bind_eq_ok {x : Except ε α} {g : α → Except ε β} {b : β} :
    x >>= g = .ok b ↔ ∃ a, x = .ok a ∧ g a = .ok b := by
  cases x <;> simp [bind, Except.bind]

theorem except_pure_eq_ok {a b : α} : (pure a : Except ε α) = .ok b ↔ a = b := by
  simp [pure, Except.pure]

variable (f : σ → α → Except ε σ)

/-- An invariant of the processed items and the accumulator, kept by every successful step,
holds after a successful fold. -/
theorem foldlM_except_induction (Q : List α → σ → Prop)
    (hf : ∀ done acc x acc', f acc x = .ok acc' → Q done acc → Q (done ++ [x]) acc') :
    ∀ {xs : List α} (done : List α) {init r : σ}, xs.foldlM f init = .ok r → Q done init →
      Q (done ++ xs) r
  | [], done, _, _, h, hq => by
    rw [List.foldlM_nil, except_pure_eq_ok] at h
    simpa [← h] using hq
  | x :: _, done, _, _, h, hq => by
    rw [List.foldlM_cons] at h
    obtain ⟨a, ha, hr⟩ := except_bind_eq_ok.1 h
    simpa using foldlM_except_induction Q hf (done ++ [x]) hr (hf _ _ _ _ ha hq)

/-- An invariant kept by every successful step holds of a successful fold's result. -/
theorem foldlM_except_inv (Q : σ → Prop) (hf : ∀ acc x acc', f acc x = .ok acc' → Q acc → Q acc')
    {xs : List α} {init r : σ} (h : xs.foldlM f init = .ok r) (hq : Q init) : Q r :=
  foldlM_except_induction f (fun _ => Q) (fun _ => hf) [] h hq

/-- When whether a step succeeds depends only on the item, a fold succeeds exactly when every
item passes. -/
theorem foldlM_except_ok_iff (P : α → Prop) (hf : ∀ acc x, (∃ acc', f acc x = .ok acc') ↔ P x) :
    ∀ (xs : List α) (init : σ), (∃ r, xs.foldlM f init = .ok r) ↔ ∀ x ∈ xs, P x
  | [], init => by simp [except_pure_eq_ok]
  | x :: xs, init => by
    simp only [List.foldlM_cons, except_bind_eq_ok, List.forall_mem_cons]
    constructor
    · rintro ⟨r, a, ha, hr⟩
      exact ⟨(hf init x).1 ⟨a, ha⟩, (foldlM_except_ok_iff P hf xs a).1 ⟨r, hr⟩⟩
    · rintro ⟨hx, hxs⟩
      obtain ⟨a, ha⟩ := (hf init x).2 hx
      obtain ⟨r, hr⟩ := (foldlM_except_ok_iff P hf xs a).2 hxs
      exact ⟨r, a, ha, hr⟩

end ExceptFold

/-! ### The loop over a manifest's layers -/

/-- A `{"digest": digest, "size": size}` record of `image_layers`: the digest as the dict key
it becomes, the size as the integer `image_compressed += size` added. -/
structure LayerEntry where
  digest : PyKey
  size : Int
  deriving Repr, DecidableEq

/-- The variables the loop over one manifest's `layers` updates. -/
structure LayerScan where
  imageCompressed : Int
  imageLayers : List LayerEntry
  allLayers : Dict PyKey Int
  layerUsage : Dict PyKey Nat

/-- Lines 168-171 for a layer read as `e`: add its size, record it, store it, count it. -/
def LayerScan.push (acc : LayerScan) (e : LayerEntry) : LayerScan where
  imageCompressed := acc.imageCompressed + e.size
  imageLayers := acc.imageLayers ++ [e]
  allLayers := acc.allLayers.insert e.digest e.size
  layerUsage := acc.layerUsage.incr e.digest

/-- One pass of `for layer in layers:` (lines 166-171). `size` must be a number for `+=`,
and `digest` hashable for `all_layers[digest] = size`. -/
def scanLayer (acc : LayerScan) (layer : JsonValue) : Except PyError LayerScan := do
  let digest ← layer.get "digest" (.str "")
  let size ← layer.get "size" (.num 0)
  let n ← size.asInt
  let key ← digest.toKey
  pure (acc.push ⟨key, n⟩)

/-- A successful pass pushes one entry. -/
theorem scanLayer_eq_ok {acc acc' : LayerScan} {layer : JsonValue}
    (h : scanLayer acc layer = .ok acc') : ∃ e, acc' = acc.push e := by
  simp only [scanLayer, except_bind_eq_ok, except_pure_eq_ok] at h
  obtain ⟨-, -, -, -, n, -, key, -, h⟩ := h
  exact ⟨⟨key, n⟩, h.symm⟩

/-- The inner loop's invariant, from start maps `all` and `usage`: each map is its start
value updated by the entries recorded so far, and `image_compressed` is their sum. -/
def LayerScan.Tracks (all : Dict PyKey Int) (usage : Dict PyKey Nat) (acc : LayerScan) : Prop :=
  acc.allLayers = acc.imageLayers.foldl (fun d e => d.insert e.digest e.size) all ∧
  acc.layerUsage = acc.imageLayers.foldl (fun d e => d.incr e.digest) usage ∧
  acc.imageCompressed = (acc.imageLayers.map (·.size)).sum

theorem LayerScan.Tracks.push {all : Dict PyKey Int} {usage : Dict PyKey Nat} {acc : LayerScan}
    (h : acc.Tracks all usage) (e : LayerEntry) : (acc.push e).Tracks all usage := by
  obtain ⟨ha, hu, hc⟩ := h
  simp only [LayerScan.Tracks, LayerScan.push, List.foldl_append, List.foldl_cons, List.foldl_nil, List.map_append,
    List.sum_append, List.map_cons, List.map_nil, List.sum_cons, List.sum_nil, Int.add_zero]
  exact ⟨ha ▸ rfl, hu ▸ rfl, hc ▸ rfl⟩

/-- A whole run of the inner loop keeps the invariant. -/
theorem LayerScan.tracks_foldlM {all : Dict PyKey Int} {usage : Dict PyKey Nat}
    {items : List JsonValue} {r : LayerScan}
    (h : items.foldlM scanLayer ⟨0, [], all, usage⟩ = .ok r) : r.Tracks all usage :=
  foldlM_except_inv scanLayer (Tracks all usage)
    (fun _ _ _ hstep hq => by obtain ⟨e, rfl⟩ := scanLayer_eq_ok hstep; exact hq.push e)
    h ⟨rfl, rfl, rfl⟩

/-! ### The loop over images -/

/-- An element of `per_image`. -/
structure CompressedImage where
  id : String
  name : String
  compressed : Int
  layers : List LayerEntry

/-- The variables the loop over images updates. -/
structure CompressedScan where
  allLayers : Dict PyKey Int
  layerUsage : Dict PyKey Nat
  perImage : List CompressedImage

/-- Every manifest entry recorded so far, image by image. -/
def CompressedScan.entries (acc : CompressedScan) : List LayerEntry :=
  acc.perImage.flatMap (·.layers)

/-- Lines 173-179: keep the maps the inner loop left and record the image. -/
def CompressedScan.addImage (acc : CompressedScan) (image : Image) (r : LayerScan) :
    CompressedScan where
  allLayers := r.allLayers
  layerUsage := r.layerUsage
  perImage := acc.perImage ++
    [⟨image.id.take 12, (getImageDisplayName image).1, r.imageCompressed, r.imageLayers⟩]

/-- One pass of `for image in images:` (lines 152-179); `manifests` gives what is found at
each image id's manifest path. -/
def scanImage (manifests : String → ManifestFile) (acc : CompressedScan) (image : Image) :
    Except PyError CompressedScan :=
  let file := manifests image.id
  if !file.pathExists then pure acc else
  let manifest := loadJsonFile file
  if manifest.isFalsy then pure acc else do
    let layers ← manifest.get "layers" (.arr [])
    let items ← layers.iter
    let r ← items.foldlM scanLayer ⟨0, [], acc.allLayers, acc.layerUsage⟩
    pure (acc.addImage image r)

/-- `get_compressed_sizes` records an image when its manifest file exists and holds a truthy
value. -/
def ManifestFile.included (file : ManifestFile) : Bool :=
  file.pathExists && !(loadJsonFile file).isFalsy

/-- A successful pass skips an image whose manifest is not included, and otherwise records one
run of the inner loop. -/
theorem scanImage_eq_ok {manifests : String → ManifestFile} {acc acc' : CompressedScan}
    {image : Image} (h : scanImage manifests acc image = .ok acc') :
    (manifests image.id).included = false ∧ acc' = acc ∨
      (manifests image.id).included = true ∧
        ∃ (items : List JsonValue) (r : LayerScan),
          items.foldlM scanLayer ⟨0, [], acc.allLayers, acc.layerUsage⟩ = .ok r ∧
          acc' = acc.addImage image r := by
  dsimp only [scanImage] at h
  rw [ManifestFile.included]
  split at h
  · exact .inl ⟨by simp_all, (except_pure_eq_ok.1 h).symm⟩
  · split at h
    · exact .inl ⟨by simp_all, (except_pure_eq_ok.1 h).symm⟩
    · simp only [except_bind_eq_ok, except_pure_eq_ok] at h
      obtain ⟨-, -, items, -, r, hr, h⟩ := h
      exact .inr ⟨by simp_all, items, r, hr, h.symm⟩

/-- The outer loop's invariant: both maps are built from the entries recorded in
`per_image`, in order, and each image's `compressed` is the sum of its entries' sizes. -/
def CompressedScan.Tracks (acc : CompressedScan) : Prop :=
  acc.allLayers = acc.entries.foldl (fun d e => d.insert e.digest e.size) Dict.empty ∧
  acc.layerUsage = acc.entries.foldl (fun d e => d.incr e.digest) Dict.empty ∧
  ∀ p ∈ acc.perImage, p.compressed = (p.layers.map (·.size)).sum

theorem CompressedScan.Tracks.addImage {acc : CompressedScan} (h : acc.Tracks) (image : Image)
    {r : LayerScan} (hr : r.Tracks acc.allLayers acc.layerUsage) :
    (acc.addImage image r).Tracks := by
  obtain ⟨ha, hu, hc⟩ := h
  obtain ⟨ra, ru, rc⟩ := hr
  refine ⟨?_, ?_, ?_⟩ <;> simp only [CompressedScan.addImage, CompressedScan.entries,
    List.flatMap_append, List.flatMap_singleton, List.foldl_append, List.mem_append,
    List.mem_singleton]
  · exact ra.trans (ha ▸ rfl)
  · exact ru.trans (hu ▸ rfl)
  · rintro p (hp | rfl)
    exacts [hc p hp, rc]

/-- A whole run of the outer loop keeps the invariant. -/
theorem CompressedScan.tracks_foldlM {manifests : String → ManifestFile} {images : List Image}
    {r : CompressedScan} (h : images.foldlM (scanImage manifests) ⟨Dict.empty, Dict.empty, []⟩ = .ok r) :
    r.Tracks := by
  refine foldlM_except_inv (scanImage manifests) Tracks (fun acc _ _ hstep hq => ?_) h
    ⟨rfl, rfl, by simp⟩
  obtain ⟨-, rfl⟩ | ⟨-, _, _, hr, rfl⟩ := scanImage_eq_ok hstep
  exacts [hq, hq.addImage _ (LayerScan.tracks_foldlM hr)]

/-! ### `get_compressed_sizes` -/

/-- The four values `get_compressed_sizes` returns. -/
structure CompressedSizes where
  allLayers : Dict PyKey Int
  layerUsage : Dict PyKey Nat
  sharedDigests : List PyKey
  perImage : List CompressedImage

/-- Every manifest entry recorded in `per_image`, image by image. -/
def CompressedSizes.entries (r : CompressedSizes) : List LayerEntry :=
  r.perImage.flatMap (·.layers)

/-- `get_compressed_sizes(images)` (lines 145-182). -/
def getCompressedSizes (manifests : String → ManifestFile) (images : List Image) :
    Except PyError CompressedSizes := do
  let acc ← images.foldlM (scanImage manifests) ⟨Dict.empty, Dict.empty, []⟩
  let sharedDigests := (acc.layerUsage.entries.filter (·.2 > 1)).map (·.1)
  pure ⟨acc.allLayers, acc.layerUsage, sharedDigests, acc.perImage⟩

/-- A successful call is a successful run of the loop over images, then the set of shared
digests. -/
theorem getCompressedSizes_eq_ok {manifests : String → ManifestFile} {images : List Image}
    {r : CompressedSizes} :
    getCompressedSizes manifests images = .ok r ↔
      ∃ acc, images.foldlM (scanImage manifests) ⟨Dict.empty, Dict.empty, []⟩ = .ok acc ∧
        r = ⟨acc.allLayers, acc.layerUsage,
          (acc.layerUsage.entries.filter (·.2 > 1)).map (·.1), acc.perImage⟩ := by
  simp only [getCompressedSizes, except_bind_eq_ok, except_pure_eq_ok]
  exact exists_congr fun _ => and_congr_right fun _ => eq_comm

/-- What a successful call returns, in terms of the manifest entries it records. -/
theorem getCompressedSizes_tracks {manifests : String → ManifestFile} {images : List Image}
    {r : CompressedSizes} (h : getCompressedSizes manifests images = .ok r) :
    r.allLayers = r.entries.foldl (fun d e => d.insert e.digest e.size) Dict.empty ∧
    r.layerUsage = r.entries.foldl (fun d e => d.incr e.digest) Dict.empty ∧
    (∀ p ∈ r.perImage, p.compressed = (p.layers.map (·.size)).sum) ∧
    r.sharedDigests = (r.layerUsage.entries.filter (·.2 > 1)).map (·.1) := by
  obtain ⟨acc, hacc, rfl⟩ := getCompressedSizes_eq_ok.1 h
  obtain ⟨ha, hu, hc⟩ := CompressedScan.tracks_foldlM hacc
  exact ⟨ha, hu, hc, rfl⟩

/-- `per_image` has one record for each image whose manifest is included, in image order, with
the image's short id and repository. -/
theorem getCompressedSizes_perImage {manifests : String → ManifestFile} {images : List Image}
    {r : CompressedSizes} (h : getCompressedSizes manifests images = .ok r) :
    r.perImage.map (fun p => (p.id, p.name)) =
      (images.filter fun image => (manifests image.id).included).map
        fun image => (image.id.take 12, (getImageDisplayName image).1) := by
  obtain ⟨acc, hacc, rfl⟩ := getCompressedSizes_eq_ok.1 h
  refine foldlM_except_induction (scanImage manifests)
    (fun done acc => acc.perImage.map (fun p => (p.id, p.name)) =
      (done.filter fun image => (manifests image.id).included).map
        fun image => (image.id.take 12, (getImageDisplayName image).1))
    (fun done acc x acc' hstep hq => ?_) [] hacc rfl
  obtain ⟨hx, rfl⟩ | ⟨hx, -, -, -, rfl⟩ := scanImage_eq_ok hstep
  · simpa [List.filter_append, hx] using hq
  · simpa [List.filter_append, hx, CompressedScan.addImage] using hq

/-- An image without a manifest file is skipped; one whose manifest lists no layer is still
recorded. -/
theorem getCompressedSizes_perImage_skips_missing :
    ∃ r, getCompressedSizes
        (fun id => if id = "aaaa" then .missing else .json (.obj [("layers", .arr [])]))
        [⟨"aaaa", ["app:v1"], some "la"⟩, ⟨"bbbb", ["db:v2"], some "lb"⟩] = .ok r ∧
      r.perImage.map (fun p => (p.id, p.name)) = [("bbbb", "db")] :=
  ⟨_, rfl, (@getCompressedSizes_perImage
    (fun id => if id = "aaaa" then .missing else .json (.obj [("layers", .arr [])]))
    [⟨"aaaa", ["app:v1"], some "la"⟩, ⟨"bbbb", ["db:v2"], some "lb"⟩] _ rfl).trans (by decide)⟩

/-- `layer_usage[d]` is the number of manifest entries that list `d`, over every included
manifest: a digest listed twice in one manifest counts twice. -/
theorem getCompressedSizes_layerUsage {manifests : String → ManifestFile} {images : List Image}
    {r : CompressedSizes} (h : getCompressedSizes manifests images = .ok r) (d : PyKey) :
    r.layerUsage.getD d 0 = r.entries.countP (·.digest = d) := by
  rw [(getCompressedSizes_tracks h).2.1, Dict.getD_foldl_incr]
  simp [Dict.getD]

/-- One image whose manifest lists the same layer twice: its digest is counted twice and
reported as shared, with no second image involved. -/
theorem sharedDigests_repeated_in_one_manifest :
    ∃ r, getCompressedSizes
        (fun _ => .json (.obj [("layers", .arr
          [.obj [("digest", .str "sha256:d"), ("size", .num 5)],
           .obj [("digest", .str "sha256:d"), ("size", .num 5)]])]))
        [⟨"aaaa", ["app:v1"], some "top"⟩] = .ok r ∧
      r.perImage.length = 1 ∧ r.layerUsage.getD (.str "sha256:d") 0 = 2 ∧
      PyKey.str "sha256:d" ∈ r.sharedDigests :=
  ⟨_, rfl, by decide, by decide, by decide⟩

end CrioDf
