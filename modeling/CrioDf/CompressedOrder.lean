import CrioDf.ManifestShape
import CrioDf.CompressedTotals

/-!
# CrioDf.CompressedOrder

`get_compressed_sizes` and the order of the images list. Each pass of the inner loop reads
one entry from a layer and then updates the four variables (`scanLayer_eq_map`), so a
manifest's run is "read every entry, then fold them in" (`foldlM_scanLayer_eq`); what an
image adds to `per_image` depends on the image and its manifest alone, not on the maps built
before it (`perImage_eq_filterMap`).

Hence reordering the images permutes `per_image`, and keeps every `layer_usage` count, the
set of shared digests and the per-image sum; `comp_deduplicated` stays too when digests are
content-stable. Without that, `all_layers` keeps the size of whichever image comes last,
and `comp_deduplicated` follows the order.

`listedEntries` names, from the images and the manifests alone, the entries a returning
call counts (`entries_eq_listedEntries`); the results below are stated over it.

## Main results

* `perImage_eq_filterMap`: `per_image` as a function of each image alone;
* `mem_sharedDigests`: a digest is shared exactly when more than one listed entry names it;
* `getCompressedSizes_comp_deduplicated`: under content-stable digests, `comp_deduplicated`
  is the per-image sum less the bytes of every repeated listing;
* `getCompressedSizes_perm`: what reordering the images keeps.
-/

namespace CrioDf

open JsonValue

/-! ### Reading, then folding -/

/-- The entry one pass of the inner loop reads from a layer (lines 167-168), with what the
`+=` and the dict store demand of its two values. -/
def layerEntry (layer : JsonValue) : Except PyError LayerEntry := do
  let digest ← layer.get "digest" (.str "")
  let size ← layer.get "size" (.num 0)
  let n ← size.asInt
  let key ← digest.toKey
  pure ⟨key, n⟩

theorem scanLayer_eq_map (acc : LayerScan) (layer : JsonValue) :
    scanLayer acc layer = acc.push <$> layerEntry layer := by
  simp [scanLayer, layerEntry, map_bind]

/-- A fold whose step reads a value and then updates the accumulator reads every value
first. -/
theorem foldlM_map_eq {ε σ α β : Type} (g : σ → β → σ) (h : α → Except ε β) :
    ∀ (xs : List α) (init : σ),
      xs.foldlM (fun acc x => g acc <$> h x) init = (·.foldl g init) <$> xs.mapM h
  | [], init => rfl
  | x :: xs, init => by
    rw [List.foldlM_cons, List.mapM_cons]
    cases h x with
    | error e => rfl
    | ok y =>
      show xs.foldlM _ (g init y) = _
      rw [foldlM_map_eq g h xs]
      cases xs.mapM h <;> rfl

/-- A manifest's inner loop: read every entry, then push them in order. -/
theorem foldlM_scanLayer_eq (items : List JsonValue) (init : LayerScan) :
    items.foldlM scanLayer init = (·.foldl LayerScan.push init) <$> items.mapM layerEntry := by
  simp only [funext₂ scanLayer_eq_map]
  exact foldlM_map_eq LayerScan.push layerEntry items init

theorem except_map_eq_ok {ε α β : Type} {f : α → β} {x : Except ε α} {b : β} :
    f <$> x = .ok b ↔ ∃ a, x = .ok a ∧ f a = b := by
  cases x <;> simp [Functor.map, Except.map]

theorem foldl_push_imageLayers (entries : List LayerEntry) (init : LayerScan) :
    (entries.foldl LayerScan.push init).imageLayers = init.imageLayers ++ entries := by
  induction entries generalizing init with
  | nil => simp
  | cons e entries ih => simp [ih, LayerScan.push]

theorem foldl_push_imageCompressed (entries : List LayerEntry) (init : LayerScan) :
    (entries.foldl LayerScan.push init).imageCompressed =
      init.imageCompressed + (entries.map (·.size)).sum := by
  induction entries generalizing init with
  | nil => simp
  | cons e entries ih => simp [ih, LayerScan.push, Int.add_assoc]

/-! ### What an image adds to `per_image` -/

/-- The entries an included manifest gives: its `layers`, read entry by entry. -/
def manifestEntries (file : ManifestFile) : Except PyError (List LayerEntry) := do
  let layers ← (loadJsonFile file).get "layers" (.arr [])
  let items ← layers.iter
  items.mapM layerEntry

/-- The `per_image` record (lines 173-179) of an image whose manifest gives `entries`. -/
def compressedImage (image : Image) (entries : List LayerEntry) : CompressedImage :=
  ⟨image.id.take 12, (getImageDisplayName image).1, (entries.map (·.size)).sum, entries⟩

/-- The record an image adds to `per_image` when its pass returns. -/
def perImageRecord (manifests : String → ManifestFile) (image : Image) :
    Option CompressedImage :=
  if (manifests image.id).included then
    match manifestEntries (manifests image.id) with
    | .ok entries => some (compressedImage image entries)
    | .error _ => none
  else none

/-- A pass that returns appends the image's record, whatever the maps built before it. -/
theorem scanImage_perImage {manifests : String → ManifestFile} {acc acc' : CompressedScan}
    {image : Image} (h : scanImage manifests acc image = .ok acc') :
    acc'.perImage = acc.perImage ++ (perImageRecord manifests image).toList := by
  dsimp only [scanImage] at h
  unfold perImageRecord ManifestFile.included
  split at h
  · simp_all [except_pure_eq_ok]
  · split at h
    · simp_all [except_pure_eq_ok]
    · simp only [except_bind_eq_ok, except_pure_eq_ok, foldlM_scanLayer_eq,
        except_map_eq_ok] at h
      obtain ⟨layers, hlayers, items, hitems, r, ⟨es, hes, rfl⟩, rfl⟩ := h
      have hentries : manifestEntries (manifests image.id) = .ok es := by
        simp only [manifestEntries, except_bind_eq_ok]
        exact ⟨layers, hlayers, items, hitems, hes⟩
      simp_all [hentries, CompressedScan.addImage, compressedImage, foldl_push_imageLayers,
        foldl_push_imageCompressed]

/-- In a call that returns, `per_image` is each image's record, in image order: what an image
adds depends on the image and its manifest alone. -/
theorem perImage_eq_filterMap {manifests : String → ManifestFile} {images : List Image}
    {r : CompressedSizes} (h : getCompressedSizes manifests images = .ok r) :
    r.perImage = images.filterMap (perImageRecord manifests) := by
  obtain ⟨acc, hacc, rfl⟩ := getCompressedSizes_eq_ok.1 h
  refine foldlM_except_induction (scanImage manifests)
    (fun done acc => acc.perImage = done.filterMap (perImageRecord manifests))
    (fun done acc x acc' hstep hq => ?_) [] hacc rfl
  dsimp only at hq ⊢
  rw [scanImage_perImage hstep, hq, List.filterMap_append]
  cases hx : perImageRecord manifests x <;> simp [hx]

/-- The entries every included manifest lists, image by image, read from the JSON by
`layerEntry`: what `get_compressed_sizes` is given to count, however it folds them. -/
def listedEntries (manifests : String → ManifestFile) (images : List Image) : List LayerEntry :=
  images.flatMap fun image =>
    if (manifests image.id).included then
      match manifestEntries (manifests image.id) with
      | .ok entries => entries
      | .error _ => []
    else []

theorem flatMap_filterMap_perImageRecord (manifests : String → ManifestFile) (images : List Image) :
    (images.filterMap (perImageRecord manifests)).flatMap (·.layers) =
      listedEntries manifests images := by
  induction images with
  | nil => rfl
  | cons image images ih =>
    rw [List.filterMap_cons, listedEntries, List.flatMap_cons, ← listedEntries, ← ih]
    unfold perImageRecord
    split_ifs
    · cases manifestEntries (manifests image.id) <;> rfl
    · rfl

/-- In a call that returns, the entries recorded in `per_image` are the listed ones. -/
theorem entries_eq_listedEntries {manifests : String → ManifestFile} {images : List Image}
    {r : CompressedSizes} (h : getCompressedSizes manifests images = .ok r) :
    r.entries = listedEntries manifests images := by
  rw [CompressedSizes.entries, perImage_eq_filterMap h, flatMap_filterMap_perImageRecord]

/-! ### The digest maps, over the manifests' entries -/

/-- A digest is shared exactly when `layer_usage` counts it more than once. -/
theorem mem_sharedDigests_iff_getD {manifests : String → ManifestFile} {images : List Image}
    {r : CompressedSizes} (h : getCompressedSizes manifests images = .ok r) (d : PyKey) :
    d ∈ r.sharedDigests ↔ 1 < r.layerUsage.getD d 0 := by
  rw [(getCompressedSizes_tracks h).2.2.2]
  simp only [List.mem_map, List.mem_filter, Prod.exists, decide_eq_true_eq, Dict.mem_entries_iff,
    exists_and_right, exists_eq_right, Dict.getD]
  cases r.layerUsage.get? d <;> simp

/-- A digest is in `shared_digests` exactly when more than one entry of the included
manifests lists it, in one manifest or in several. -/
theorem mem_sharedDigests {manifests : String → ManifestFile} {images : List Image}
    {r : CompressedSizes} (h : getCompressedSizes manifests images = .ok r) (d : PyKey) :
    d ∈ r.sharedDigests ↔ 1 < occ (listedEntries manifests images) d := by
  rw [mem_sharedDigests_iff_getD h, getCompressedSizes_layerUsage h, entries_eq_listedEntries h]
  rfl

/-- Two images whose manifests list the same base layer once each. -/
theorem mem_sharedDigests_shared_base :
    ∃ r, getCompressedSizes
        (fun _ => .json (.obj [("layers", .arr [.obj [("digest", .str "sha256:b"), ("size", .num 100)]])]))
        [⟨"aaaa", ["app:v1"], some "top"⟩, ⟨"bbbb", ["app:v2"], some "top"⟩] = .ok r ∧
      (PyKey.str "sha256:b" ∈ r.sharedDigests ↔
        1 < occ (listedEntries
          (fun _ => .json (.obj [("layers", .arr [.obj [("digest", .str "sha256:b"), ("size", .num 100)]])]))
          [⟨"aaaa", ["app:v1"], some "top"⟩, ⟨"bbbb", ["app:v2"], some "top"⟩]) (.str "sha256:b")) :=
  ⟨_, rfl, @mem_sharedDigests
    (fun _ => .json (.obj [("layers", .arr [.obj [("digest", .str "sha256:b"), ("size", .num 100)]])]))
    [⟨"aaaa", ["app:v1"], some "top"⟩, ⟨"bbbb", ["app:v2"], some "top"⟩] _ rfl _⟩

/-- With content-stable digests over the included manifests, `all_layers` maps every digest
they list to its size, and the per-image compressed sum exceeds `comp_deduplicated` by each
digest's size once per repeated listing; so, with non-negative sizes, `comp_deduplicated` is
at most the per-image sum, with equality exactly when no digest of positive size is listed
twice. -/
theorem getCompressedSizes_comp_deduplicated (manifests : String → ManifestFile)
    (images : List Image) (r : CompressedSizes)
    (h : getCompressedSizes manifests images = .ok r)
    (hstable : ContentStable (listedEntries manifests images)) :
    (∀ e ∈ listedEntries manifests images, r.allLayers.get? e.digest = some e.size) ∧
    r.perImageTotal = compDeduplicated r.allLayers +
      ∑ d ∈ digests (listedEntries manifests images),
        ((occ (listedEntries manifests images) d : Int) - 1) * r.allLayers.getD d 0 ∧
    ((∀ e ∈ listedEntries manifests images, 0 ≤ e.size) →
      compDeduplicated r.allLayers ≤ r.perImageTotal ∧
      (compDeduplicated r.allLayers = r.perImageTotal ↔
        ∀ e ∈ listedEntries manifests images, 0 < e.size →
          occ (listedEntries manifests images) e.digest ≤ 1)) := by
  rw [← entries_eq_listedEntries h] at hstable ⊢
  refine ⟨fun e he => get?_allLayers_of_mem h hstable he, sum_compressed_eq h hstable,
    fun hnonneg => ?_⟩
  rw [sum_compressed_eq h hstable, self_eq_add_right,
    sum_repeatBytes_eq_zero_iff h hstable hnonneg]
  exact ⟨le_add_of_nonneg_right (Finset.sum_nonneg fun d hd =>
    repeatBytes_nonneg h hstable hnonneg hd), Iff.rfl⟩

/-- Two images whose manifests list the same base layer: their per-image sums count it twice. -/
theorem getCompressedSizes_comp_deduplicated_shared_base :
    ∃ r, getCompressedSizes
        (fun _ => .json (.obj [("layers", .arr [.obj [("digest", .str "sha256:b"), ("size", .num 100)]])]))
        [⟨"aaaa", ["app:v1"], some "top"⟩, ⟨"bbbb", ["app:v2"], some "top"⟩] = .ok r ∧
      ContentStable (listedEntries
        (fun _ => .json (.obj [("layers", .arr [.obj [("digest", .str "sha256:b"), ("size", .num 100)]])]))
        [⟨"aaaa", ["app:v1"], some "top"⟩, ⟨"bbbb", ["app:v2"], some "top"⟩]) ∧
      compDeduplicated r.allLayers = 100 ∧ r.perImageTotal = 200 ∧
      compDeduplicated r.allLayers ≤ r.perImageTotal := by
  refine ⟨_, rfl, by decide, by decide, by decide, ?_⟩
  exact ((getCompressedSizes_comp_deduplicated
    (fun _ => .json (.obj [("layers", .arr [.obj [("digest", .str "sha256:b"), ("size", .num 100)]])]))
    [⟨"aaaa", ["app:v1"], some "top"⟩, ⟨"bbbb", ["app:v2"], some "top"⟩] _ rfl
    (by decide)).2.2 (by decide)).1

/-! ### Reordering the images -/

/-- Reordering the images changes no outcome of `get_compressed_sizes`: it returns for both
orders or for neither; when it does, `per_image` is permuted, and every `layer_usage` count,
the shared digests and the per-image sum stay, and so does `comp_deduplicated` when digests
are content-stable. -/
theorem getCompressedSizes_perm (manifests : String → ManifestFile) {images images' : List Image}
    (hperm : images.Perm images') :
    ((∃ r, getCompressedSizes manifests images = .ok r) ↔
      ∃ r', getCompressedSizes manifests images' = .ok r') ∧
    ∀ r r', getCompressedSizes manifests images = .ok r →
      getCompressedSizes manifests images' = .ok r' →
      r.perImage.Perm r'.perImage ∧ (∀ d, r.layerUsage.getD d 0 = r'.layerUsage.getD d 0) ∧
      (∀ d, d ∈ r.sharedDigests ↔ d ∈ r'.sharedDigests) ∧
      r.perImageTotal = r'.perImageTotal ∧
      (ContentStable (listedEntries manifests images) →
        compDeduplicated r.allLayers = compDeduplicated r'.allLayers) := by
  refine ⟨?_, fun r r' h h' => ?_⟩
  · rw [getCompressedSizes_ok_iff_foldlM, getCompressedSizes_ok_iff_foldlM,
      foldlM_scanImage_ok_iff, foldlM_scanImage_ok_iff]
    exact forall_congr' fun _ => imp_congr_left hperm.mem_iff
  have hp : r.perImage.Perm r'.perImage := by
    rw [perImage_eq_filterMap h, perImage_eq_filterMap h']
    exact hperm.filterMap _
  have he : r.entries.Perm r'.entries := hp.flatMap_right _
  have husage : ∀ d, r.layerUsage.getD d 0 = r'.layerUsage.getD d 0 := fun d => by
    rw [getCompressedSizes_layerUsage h, getCompressedSizes_layerUsage h', he.countP_eq]
  refine ⟨hp, husage, fun d => ?_, (hp.map _).sum_eq, fun hs => ?_⟩
  · rw [mem_sharedDigests_iff_getD h, mem_sharedDigests_iff_getD h', husage]
  · rw [← entries_eq_listedEntries h] at hs
    have hs' := hs.of_perm he
    have hdigests : digests r.entries = digests r'.entries :=
      List.toFinset_eq_of_perm _ _ (he.map _)
    rw [compDeduplicated_eq h, compDeduplicated_eq h', hdigests]
    refine Finset.sum_congr rfl fun d hd => ?_
    obtain ⟨e, he', rfl⟩ := mem_digests.1 hd
    rw [getD_allLayers_of_mem h hs (he.mem_iff.2 he'), getD_allLayers_of_mem h' hs' he']

/-- Two images over one base, listed in both orders. -/
theorem getCompressedSizes_perm_swap :
    ([⟨"aaaa", ["app:v1"], some "la"⟩, ⟨"bbbb", ["db:v1"], some "lb"⟩] : List Image).Perm
      [⟨"bbbb", ["db:v1"], some "lb"⟩, ⟨"aaaa", ["app:v1"], some "la"⟩] ∧
    ∃ r r', getCompressedSizes
        (fun id => .json (.obj [("layers", .arr [.obj [("digest", .str "sha256:base"), ("size", .num 100)],
          .obj [("digest", .str id), ("size", .num 10)]])]))
        [⟨"aaaa", ["app:v1"], some "la"⟩, ⟨"bbbb", ["db:v1"], some "lb"⟩] = .ok r ∧
      getCompressedSizes
        (fun id => .json (.obj [("layers", .arr [.obj [("digest", .str "sha256:base"), ("size", .num 100)],
          .obj [("digest", .str id), ("size", .num 10)]])]))
        [⟨"bbbb", ["db:v1"], some "lb"⟩, ⟨"aaaa", ["app:v1"], some "la"⟩] = .ok r' ∧
      compDeduplicated r.allLayers = compDeduplicated r'.allLayers :=
by
  refine ⟨List.Perm.swap _ _ _, _, _, rfl, rfl, ?_⟩
  have hperm := (getCompressedSizes_perm
    (fun id => .json (.obj [("layers", .arr [.obj [("digest", .str "sha256:base"), ("size", .num 100)],
      .obj [("digest", .str id), ("size", .num 10)]])]))
    (List.Perm.swap ⟨"bbbb", ["db:v1"], some "lb"⟩ ⟨"aaaa", ["app:v1"], some "la"⟩ [])).2 _ _ rfl rfl
  exact hperm.2.2.2.2 (by decide)

/-- Without content-stable digests the order matters: two manifests giving one digest two
sizes, and `comp_deduplicated` is the size of whichever image comes last. -/
example :
    (getCompressedSizes
        (fun id => .json (.obj [("layers", .arr [.obj [("digest", .str "sha256:d"),
          ("size", .num (if id = "aaaa" then 100 else 200))]])]))
        [⟨"aaaa", ["app:v1"], some "la"⟩, ⟨"bbbb", ["db:v1"], some "lb"⟩]).map
      (compDeduplicated ·.allLayers) = .ok 200 ∧
    (getCompressedSizes
        (fun id => .json (.obj [("layers", .arr [.obj [("digest", .str "sha256:d"),
          ("size", .num (if id = "aaaa" then 100 else 200))]])]))
        [⟨"bbbb", ["db:v1"], some "lb"⟩, ⟨"aaaa", ["app:v1"], some "la"⟩]).map
      (compDeduplicated ·.allLayers) = .ok 100 :=
  ⟨rfl, rfl⟩

end CrioDf
