import Mathlib.Algebra.BigOperators.Group.Finset
import Mathlib.Algebra.Order.BigOperators.Group.Finset
import Mathlib.Algebra.Order.BigOperators.Group.List
import Mathlib.Algebra.Order.Field.Basic
import Mathlib.Algebra.Order.Field.Rat
import Mathlib.Algebra.Order.Ring.Cast
import Mathlib.Tactic.NormNum.Basic
import Mathlib.Tactic.NormNum.Inv
import CrioDf.Usage

/-!
# CrioDf.Ownership

What the uncompressed accounting is for, stated over the walks, and proved of `diskUsage`.

For the images of a store and its `layers_by_id`:

* `useCount l` — the number of images whose walk contains `l`;
* `storeLayers` — every layer id that some walk reaches;
* `layerSizeOf l` — the size of `layers_by_id[l]`;
* `sharedBytes image`, `uniqueBytes image` — the sizes of the layers of the image's walk
  that more than one image uses, and that only this image uses;
* `storeBytes` — the size of every reached layer, once;
* `expectedUsage` — the report these figures make.

`diskUsage_eq` is the refinement: with distinct image ids, `diskUsage` never raises and
returns `expectedUsage`. The walks list each layer once (`nodup_walkImageLayers`), so the
per-walk sums of the code are sums over finite sets.

## Proof shape

The conservation law `storeBytes_eq_unique_add_shared` (the store total is the unique
bytes of all images plus the shared layers, each once) comes from one double count,
`sum_walks_filter_eq`: summed over the images, the layers of each walk count the layer `l`
exactly `useCount l` times.

## Main results

* `diskUsage_shared_unique_sizes` — the shared and unique size of every image, and
  `layer_count`;
* `diskUsage_total_size` — the total, its split into unique and shared bytes, and the
  reclaimable percentage in `[0, 100]`.
-/

namespace CrioDf

open Finset

/-! ### The accounting over walks -/

section Accounting

variable (layersById : Dict String Layer) (images : List Image)

/-- The number of images whose walk contains the layer. -/
def useCount (layerId : String) : Nat :=
  images.countP (fun image => layerId ∈ walkImageLayers image layersById)

/-- The layer ids that some image's walk reaches. -/
def storeLayers : Finset String :=
  (images.flatMap (walkImageLayers · layersById)).toFinset

/-- The size of `layers_by_id[layer_id]` (`0` for an id that is not a key). -/
def layerSizeOf (layerId : String) : Int := (sizeAt? layersById layerId).getD 0

/-- The bytes of the image's layers that more than one image uses. -/
def sharedBytes (image : Image) : Int :=
  ∑ l ∈ (walkImageLayers image layersById).toFinset.filter (1 < useCount layersById images ·),
    layerSizeOf layersById l

/-- The bytes of the image's layers that no other image uses. -/
def uniqueBytes (image : Image) : Int :=
  ∑ l ∈ (walkImageLayers image layersById).toFinset.filter (useCount layersById images · ≤ 1),
    layerSizeOf layersById l

/-- The bytes of the store: every reached layer, once. -/
def storeBytes : Int := ∑ l ∈ storeLayers layersById images, layerSizeOf layersById l

theorem mem_storeLayers {l : String} :
    l ∈ storeLayers layersById images ↔ ∃ image ∈ images, l ∈ walkImageLayers image layersById := by
  simp [storeLayers]

theorem sizeAt?_of_mem_walk {image : Image} {l : String}
    (h : l ∈ walkImageLayers image layersById) :
    sizeAt? layersById l = some (layerSizeOf layersById l) := by
  obtain ⟨layer, hlayer⟩ := Option.isSome_iff_exists.mp
    (Dict.mem_keys_iff.mp (mem_keys_of_mem_walkImageLayers h))
  simp [sizeAt?, layerSizeOf, hlayer]

/-- Summed over a list of images, the layers of each walk with a property `P` count each
layer once per image whose walk contains it. -/
theorem sum_walks_filter_eq (P : String → Prop) [DecidablePred P] (f : String → Int)
    (S : Finset String) (imgs : List Image)
    (hS : ∀ image ∈ imgs, ∀ l ∈ walkImageLayers image layersById, l ∈ S) :
    (imgs.map fun image => ∑ l ∈ (walkImageLayers image layersById).toFinset.filter P, f l).sum =
      ∑ l ∈ S.filter P, (useCount layersById imgs l : Int) * f l := by
  induction imgs with
  | nil => simp [useCount]
  | cons image imgs ih =>
    have hsub : (S.filter P) ∩ (walkImageLayers image layersById).toFinset =
        (walkImageLayers image layersById).toFinset.filter P := by
      ext l
      simp only [mem_inter, mem_filter, List.mem_toFinset]
      exact ⟨fun h => ⟨h.2, h.1.2⟩, fun h => ⟨⟨hS image (List.mem_cons_self _ _) l h.1, h.2⟩, h.1⟩⟩
    have hcount : ∀ l, (useCount layersById (image :: imgs) l : Int) * f l =
        (useCount layersById imgs l : Int) * f l +
          if l ∈ (walkImageLayers image layersById).toFinset then f l else 0 := by
      intro l
      by_cases hl : l ∈ walkImageLayers image layersById <;>
        simp [useCount, List.countP_cons, hl, add_mul]
    rw [List.map_cons, List.sum_cons, ih fun i hi => hS i (List.mem_cons_of_mem _ hi),
      sum_congr rfl fun l _ => hcount l, sum_add_distrib, sum_ite_mem, hsub, add_comm]

/-- The store total is the unique bytes of all images plus the shared layers, each once. -/
theorem storeBytes_eq_unique_add_shared :
    storeBytes layersById images = (images.map (uniqueBytes layersById images)).sum +
      ∑ l ∈ (storeLayers layersById images).filter (2 ≤ useCount layersById images ·),
        layerSizeOf layersById l := by
  have hS : ∀ image ∈ images, ∀ l ∈ walkImageLayers image layersById,
      l ∈ storeLayers layersById images :=
    fun image himage l hl => (mem_storeLayers layersById images).mpr ⟨image, himage, hl⟩
  have hunique : (images.map (uniqueBytes layersById images)).sum =
      ∑ l ∈ (storeLayers layersById images).filter (useCount layersById images · ≤ 1),
        layerSizeOf layersById l := by
    change (images.map fun image => ∑ l ∈ (walkImageLayers image layersById).toFinset.filter
      (useCount layersById images · ≤ 1), layerSizeOf layersById l).sum = _
    rw [sum_walks_filter_eq layersById _ _ _ images hS]
    refine sum_congr rfl fun l hl => ?_
    obtain ⟨hstore, hle⟩ := mem_filter.mp hl
    obtain ⟨image, himage, hwalk⟩ := (mem_storeLayers layersById images).mp hstore
    have hpos : 0 < useCount layersById images l :=
      List.countP_pos_iff.mpr ⟨image, himage, by simpa using hwalk⟩
    have hone : useCount layersById images l = 1 := by omega
    simp [hone]
  rw [hunique, storeBytes, ← sum_filter_add_sum_filter_not _ (useCount layersById images · ≤ 1)]
  congr 1
  exact sum_congr (filter_congr fun l _ => by omega) fun _ _ => rfl

/-- An image's shared and unique bytes together are the bytes of its whole walk. -/
theorem sharedBytes_add_uniqueBytes (image : Image) :
    sharedBytes layersById images image + uniqueBytes layersById images image =
      ∑ l ∈ (walkImageLayers image layersById).toFinset, layerSizeOf layersById l := by
  rw [sharedBytes, uniqueBytes, ← sum_filter_add_sum_filter_not
    (walkImageLayers image layersById).toFinset (1 < useCount layersById images ·)]
  congr 1
  exact sum_congr (filter_congr fun _ _ => by simp only [not_lt]) fun _ _ => rfl

/-- With distinct images, a walked layer is used more than once exactly when another
image's walk has it too. -/
theorem one_lt_useCount_iff {image : Image} (hnd : images.Nodup) (himage : image ∈ images)
    {l : String} (hl : l ∈ walkImageLayers image layersById) :
    1 < useCount layersById images l ↔
      ∃ other ∈ images, other ≠ image ∧ l ∈ walkImageLayers other layersById := by
  have hperm := List.perm_cons_erase himage
  rw [useCount, hperm.countP_eq, List.countP_cons_of_pos _ _ (by simpa using hl)]
  simp only [Nat.lt_add_left_iff_pos, List.countP_pos_iff, hnd.mem_erase_iff, decide_eq_true_eq]
  constructor
  · rintro ⟨other, ⟨hne, hmem⟩, hwalk⟩; exact ⟨other, hmem, hne, hwalk⟩
  · rintro ⟨other, hmem, hne, hwalk⟩; exact ⟨other, ⟨hne, hmem⟩, hwalk⟩

end Accounting

theorem layerSizeOf_nonneg {layers : List Layer} (hnn : ∀ layer ∈ layers, 0 ≤ layerSize layer)
    (l : String) : 0 ≤ layerSizeOf (layersById layers) l := by
  cases h : (layersById layers).get? l with
  | none => simp [layerSizeOf, sizeAt?, h]
  | some layer =>
    have hmem : layer ∈ layers := by
      rw [layersById_get?] at h
      exact List.mem_reverse.mp (List.mem_of_find?_eq_some h)
    simpa [layerSizeOf, sizeAt?, h] using hnn layer hmem

/-- `layerSize` is the rule `diff_size if diff_size is not None else (uncompress_size or 0)`. -/
theorem layerSize_eq (layer : Layer) :
    layerSize layer = layer.diffSize.getD (layer.uncompressSize.getD 0) := by
  cases h : layer.diffSize <;> simp [layerSize, h]

/-- `layerSizeOf` is that rule, read off `layers_by_id`. -/
theorem layerSizeOf_eq (layersById : Dict String Layer) (l : String) :
    layerSizeOf layersById l =
      (layersById.get? l).elim 0 fun layer => layer.diffSize.getD (layer.uncompressSize.getD 0) := by
  cases h : layersById.get? l <;> simp [layerSizeOf, sizeAt?, h, layerSize_eq]

/-! ### The refinement -/

/-- The report the accounting should make: the figures above, in the code's records. -/
def expectedUsage (images : List Image) (layers : List Layer)
    (volatileLayers : List VolatileLayer) : DiskUsage :=
  let byId := layersById layers
  let perImage := containersPerImage (layerToImage images) volatileLayers
  let record := fun image => imageRecord image (sharedBytes byId images image)
    (uniqueBytes byId images image) (perImage.getD image.id 0)
  let reclaimable := (images.map fun image => (record image).reclaimable).sum
  { layerCount := (countLayers byId images).1
    totalSize := storeBytes byId images
    containersPerImage := perImage
    imageData := images.map record
    totalReclaimable := reclaimable
    reclaimablePct := reclaimablePct reclaimable (storeBytes byId images) }

theorem sum_filter_walk_eq (layersById : Dict String Layer) (image : Image) (p : String → Prop)
    [DecidablePred p] (g : String → Int) :
    (((walkImageLayers image layersById).filter fun l => decide (p l)).map g).sum =
      ∑ l ∈ (walkImageLayers image layersById).toFinset.filter p, g l := by
  rw [← List.sum_toFinset _ ((nodup_walkImageLayers _ _).filter _), List.toFinset_filter]
  simp only [decide_eq_true_eq]

/-- With distinct image ids, `main`'s accounting never raises and reports the shared,
unique and total bytes of the walks. -/
theorem diskUsage_eq {images : List Image} (layers : List Layer)
    (volatileLayers : List VolatileLayer) (hid : (images.map Image.id).Nodup) :
    diskUsage images layers volatileLayers = some (expectedUsage images layers volatileLayers) := by
  set byId := layersById layers
  have htotal : totalSize byId (countLayers byId images).1 = some (storeBytes byId images) := by
    rw [totalSize_eq (g := layerSizeOf byId) fun k hk => by
      obtain ⟨image, -, hw⟩ := (mem_countLayers_keys byId images k).mp hk
      exact sizeAt?_of_mem_walk byId hw]
    have hkeys : (countLayers byId images).1.keys.toFinset = storeLayers byId images := by
      ext k; simp [mem_countLayers_keys, mem_storeLayers]
    rw [← List.sum_toFinset _ (Dict.keys_nodup _), hkeys, storeBytes]
  have hentry : ∀ image ∈ images, imageEntry byId (countLayers byId images).1
      (countLayers byId images).2 (containersPerImage (layerToImage images) volatileLayers) image =
      some (imageRecord image (sharedBytes byId images image) (uniqueBytes byId images image)
        ((containersPerImage (layerToImage images) volatileLayers).getD image.id 0)) := by
    intro image himage
    have hsplit : splitSizes byId (countLayers byId images).1 (walkImageLayers image byId) =
        some (sharedBytes byId images image, uniqueBytes byId images image) := by
      rw [splitSizes_eq fun k hk => sizeAt?_of_mem_walk byId hk]
      simp only [countLayers_getD]
      rw [sum_filter_walk_eq, sum_filter_walk_eq]
      rfl
    simp only [imageEntry, countLayers_get?_id hid himage, Option.bind_eq_bind, Option.some_bind,
      hsplit]
    rfl
  simp only [diskUsage, htotal, imageDataLoop_eq hentry, Option.bind_eq_bind, Option.some_bind]
  rfl

/-! ### Shared and unique sizes -/

/-- Every image's shared size is the size of its walked layers that another image's walk
also reaches, its unique size the size of the others, and `layer_count[l]` is the number
of images whose walk contains `l`. -/
theorem diskUsage_shared_unique_sizes (images : List Image) (layers : List Layer)
    (volatileLayers : List VolatileLayer) (hid : (images.map Image.id).Nodup) :
    ∃ du, diskUsage images layers volatileLayers = some du ∧
      du.imageData.length = images.length ∧
      (∀ image e, du.Reports images image e →
        e.sharedSize = ∑ l ∈ (walkImageLayers image (layersById layers)).toFinset.filter
            (fun l => ∃ other ∈ images, other ≠ image ∧
              l ∈ walkImageLayers other (layersById layers)),
          (((layersById layers).get? l).elim 0 fun layer =>
            layer.diffSize.getD (layer.uncompressSize.getD 0)) ∧
        e.uniqueSize = ∑ l ∈ (walkImageLayers image (layersById layers)).toFinset.filter
            (fun l => ¬∃ other ∈ images, other ≠ image ∧
              l ∈ walkImageLayers other (layersById layers)),
          (((layersById layers).get? l).elim 0 fun layer =>
            layer.diffSize.getD (layer.uncompressSize.getD 0))) ∧
      ∀ l, du.layerCount.getD l 0 =
        images.countP (fun image => l ∈ walkImageLayers image (layersById layers)) := by
  refine ⟨_, diskUsage_eq layers volatileLayers hid, by simp [expectedUsage], ?_,
    countLayers_getD _ images⟩
  intro image e hreports
  obtain ⟨himage, rfl⟩ := (DiskUsage.reports_iff_of_map rfl).mp hreports
  have hnd : images.Nodup := List.Nodup.of_map Image.id hid
  have hiff := fun l (hl : l ∈ (walkImageLayers image (layersById layers)).toFinset) =>
    one_lt_useCount_iff (layersById layers) images hnd himage (List.mem_toFinset.mp hl)
  simp only [imageRecord, sharedBytes, uniqueBytes, ← layerSizeOf_eq]
  refine ⟨sum_congr (filter_congr hiff) fun _ _ => rfl,
    sum_congr (filter_congr fun l hl => ?_) fun _ _ => rfl⟩
  rw [← hiff l hl, Nat.not_lt]

/-- Two images with distinct ids over a shared base layer. -/
theorem diskUsage_shared_unique_sizes_shared_base :
    (([⟨"aaaa", ["app-a:v1"], some "la"⟩, ⟨"bbbb", ["app-b:v1"], some "lb"⟩] : List Image).map
      Image.id).Nodup ∧
    ∃ du, diskUsage [⟨"aaaa", ["app-a:v1"], some "la"⟩, ⟨"bbbb", ["app-b:v1"], some "lb"⟩]
      [⟨"base", none, some 1000, none⟩, ⟨"la", some "base", some 200, none⟩,
        ⟨"lb", some "base", some 300, none⟩] [⟨some "lb"⟩] = some du :=
  ⟨by decide, (diskUsage_shared_unique_sizes _ _ _ (by decide)).imp fun _ h => h.1⟩

/-! ### The store total and the reclaimable share -/

theorem reclaimablePct_mem {r t : Int} (h0 : 0 ≤ r) (hle : r ≤ t) :
    0 ≤ reclaimablePct r t ∧ reclaimablePct r t ≤ 100 := by
  unfold reclaimablePct
  split
  · rename_i ht
    have ht' : (0 : ℚ) < t := Int.cast_pos.mpr ht
    have h1 : (r : ℚ) / t ≤ 1 := (div_le_one ht').mpr (Int.cast_le.mpr hle)
    have h2 : 0 ≤ (r : ℚ) / t := div_nonneg (Int.cast_nonneg.mpr h0) ht'.le
    exact ⟨mul_nonneg h2 (by norm_num), mul_le_of_le_one_left (by norm_num) h1⟩
  · norm_num

/-- The store total is the size of every layer some walk reaches, once; it splits into
the unique sizes of the images and the layers at least two walks share; and with
non-negative layer sizes the reclaimable bytes are at most the total, so the percentage
lies in `[0, 100]`. -/
theorem diskUsage_total_size (images : List Image) (layers : List Layer)
    (volatileLayers : List VolatileLayer) (hid : (images.map Image.id).Nodup) :
    ∃ du, diskUsage images layers volatileLayers = some du ∧
      du.totalSize = ∑ l ∈ (images.flatMap (walkImageLayers · (layersById layers))).toFinset,
        (((layersById layers).get? l).elim 0 fun layer =>
          layer.diffSize.getD (layer.uncompressSize.getD 0)) ∧
      du.totalSize = (du.imageData.map ImageData.uniqueSize).sum +
        ∑ l ∈ (images.flatMap (walkImageLayers · (layersById layers))).toFinset.filter
            (fun l => 2 ≤ images.countP (fun image => l ∈ walkImageLayers image (layersById layers))),
          (((layersById layers).get? l).elim 0 fun layer =>
            layer.diffSize.getD (layer.uncompressSize.getD 0)) ∧
      (du.totalSize = 0 → du.reclaimablePct = 0) ∧
      ((∀ layer ∈ layers, 0 ≤ layer.diffSize.getD (layer.uncompressSize.getD 0)) →
        du.totalReclaimable ≤ du.totalSize ∧ 0 ≤ du.reclaimablePct ∧ du.reclaimablePct ≤ 100) := by
  set byId := layersById layers
  have hunique : (images.map fun image => (imageRecord image (sharedBytes byId images image)
      (uniqueBytes byId images image)
      ((containersPerImage (layerToImage images) volatileLayers).getD image.id 0)).uniqueSize) =
      images.map (uniqueBytes byId images) := by
    simp [imageRecord]
  simp only [← layerSizeOf_eq]
  simp only [← layerSize_eq]
  refine ⟨_, diskUsage_eq layers volatileLayers hid, rfl, ?_, ?_, fun hnn => ?_⟩
  · simpa [expectedUsage, hunique] using storeBytes_eq_unique_add_shared byId images
  · intro h0
    change storeBytes byId images = 0 at h0
    simp [expectedUsage, reclaimablePct, h0]
  · have hu : ∀ image, 0 ≤ uniqueBytes byId images image := fun _ =>
      sum_nonneg fun l _ => layerSizeOf_nonneg hnn l
    have hshared : 0 ≤ ∑ l ∈ (storeLayers byId images).filter (2 ≤ useCount byId images ·),
        layerSizeOf byId l := sum_nonneg fun l _ => layerSizeOf_nonneg hnn l
    have hle : (expectedUsage images layers volatileLayers).totalReclaimable ≤
        (images.map (uniqueBytes byId images)).sum :=
      List.sum_le_sum fun image _ => (imageRecord_reclaimable_mem image _ _ (hu image)).2
    have h0 : 0 ≤ (expectedUsage images layers volatileLayers).totalReclaimable :=
      List.sum_nonneg fun x hx => by
        obtain ⟨image, -, rfl⟩ := List.mem_map.mp hx
        exact (imageRecord_reclaimable_mem image _ _ (hu image)).1
    have hrt : (expectedUsage images layers volatileLayers).totalReclaimable ≤
        storeBytes byId images := by
      have := storeBytes_eq_unique_add_shared byId images
      omega
    exact ⟨hrt, reclaimablePct_mem h0 hrt⟩

/-- The same two images: distinct ids, and the accounting returns. -/
theorem diskUsage_total_size_shared_base :
    (([⟨"aaaa", ["app-a:v1"], some "la"⟩, ⟨"bbbb", ["app-b:v1"], some "lb"⟩] : List Image).map
      Image.id).Nodup ∧
    ∃ du, diskUsage [⟨"aaaa", ["app-a:v1"], some "la"⟩, ⟨"bbbb", ["app-b:v1"], some "lb"⟩]
      [⟨"base", none, some 1000, none⟩, ⟨"la", some "base", some 200, none⟩,
        ⟨"lb", some "base", some 300, none⟩] [⟨some "lb"⟩] = some du :=
  ⟨by decide, (diskUsage_total_size _ _ _ (by decide)).imp fun _ h => h.1⟩

/- Two images over a shared 1000-byte base, with own layers of 200 and 300 bytes; only the
second has a container. The total counts the base once, and only the first image's unique
bytes are reclaimable: 200 of 1500, about 13%. -/
example :
    (diskUsage [⟨"aaaa", ["app-a:v1"], some "la"⟩, ⟨"bbbb", ["app-b:v1"], some "lb"⟩]
        [⟨"base", none, some 1000, none⟩, ⟨"la", some "base", some 200, none⟩,
          ⟨"lb", some "base", some 300, none⟩] [⟨some "lb"⟩]).map
      (fun du => (du.totalSize,
        du.imageData.map (fun e => (e.sharedSize, e.uniqueSize, e.reclaimable)),
        du.totalReclaimable, du.reclaimablePct)) =
      some (1500, [(1000, 200, 200), (1000, 300, 0)], 200, 40 / 3) := by
  have hwa : walkImageLayers ⟨"aaaa", ["app-a:v1"], some "la"⟩
      (layersById [⟨"base", none, some 1000, none⟩, ⟨"la", some "base", some 200, none⟩,
        ⟨"lb", some "base", some 300, none⟩]) = ["la", "base"] :=
    walkImageLayers_eq_of_walkLoopFuel (by decide)
  have hwb : walkImageLayers ⟨"bbbb", ["app-b:v1"], some "lb"⟩
      (layersById [⟨"base", none, some 1000, none⟩, ⟨"la", some "base", some 200, none⟩,
        ⟨"lb", some "base", some 300, none⟩]) = ["lb", "base"] :=
    walkImageLayers_eq_of_walkLoopFuel (by decide)
  have hpct : reclaimablePct 200 1500 = 40 / 3 := by norm_num [reclaimablePct]
  simp only [diskUsage, countLayers, List.foldl, hwa, hwb]
  rw [← hpct]
  rfl

end CrioDf
