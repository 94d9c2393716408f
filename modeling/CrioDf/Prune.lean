import CrioDf.Ownership

/-!
# CrioDf.Prune

What the RECLAIMABLE figure measures. It adds up the unique size of every image whose
CONTAINERS column is 0; deleting all of those images at once frees that, and also every
layer that two or more of them share and no image in use reaches. So the figure is a lower
bound of what pruning the unused images frees, exact when no layer is shared only among
them.

## Proof shape

Split the images into those kept (`used`) and those pruned. A layer's use count is the sum
of the two (`useCount_filter_add_filter_not`), and the layers pruning frees are those no
kept walk reaches (`storeBytes_sub_filter`). Of these, the ones with a single user are
exactly the unique layers of the pruned images (`sum_uniqueBytes_filter_not`, by the double
count `sum_walks_filter_eq`); the others are shared by pruned images only.

## Main results

* `storeBytes_sub_prune`: the bytes pruning frees, over the walks;
* `diskUsage_prune_unused`: the same of the report, rerun on the images in use.
-/

namespace CrioDf

open Finset

section Prune

variable (layersById : Dict String Layer) (images : List Image) (used : Image → Prop)
  [DecidablePred used]

theorem useCount_filter_add_filter_not (l : String) :
    useCount layersById (images.filter used) l + useCount layersById (images.filter (¬used ·)) l =
      useCount layersById images l := by
  simp only [useCount, decide_not]
  exact (List.countP_eq_countP_filter_add _ _ _).symm

theorem mem_storeLayers_iff_useCount_pos (imgs : List Image) {l : String} :
    l ∈ storeLayers layersById imgs ↔ 0 < useCount layersById imgs l := by
  simp [mem_storeLayers, useCount, List.countP_pos_iff]

/-- No kept image reaches the layer. -/
theorem useCount_filter_eq_zero_iff {l : String} :
    useCount layersById (images.filter used) l = 0 ↔
      ∀ image ∈ images, l ∈ walkImageLayers image layersById → ¬used image := by
  simp only [useCount, List.countP_eq_zero, List.mem_filter, decide_eq_true_eq, and_imp]
  exact forall₂_congr fun _ _ => imp_not_comm

/-- The bytes pruning frees: the layers that no kept walk reaches. -/
theorem storeBytes_sub_filter :
    storeBytes layersById images - storeBytes layersById (images.filter used) =
      ∑ l ∈ (storeLayers layersById images).filter
        (useCount layersById (images.filter used) · = 0), layerSizeOf layersById l := by
  have hsub : storeLayers layersById (images.filter used) ⊆ storeLayers layersById images :=
    fun l hl => by
      simp only [mem_storeLayers, List.mem_filter] at hl ⊢
      obtain ⟨image, ⟨himage, -⟩, hwalk⟩ := hl
      exact ⟨image, himage, hwalk⟩
  rw [storeBytes, storeBytes, ← sum_sdiff_eq_sub hsub]
  refine sum_congr (ext fun l => ?_) fun _ _ => rfl
  simp only [mem_sdiff, mem_filter, mem_storeLayers_iff_useCount_pos, Nat.pos_iff_ne_zero,
    not_not]

/-- The unique bytes of the pruned images are the freed layers with a single user. -/
theorem sum_uniqueBytes_filter_not :
    ((images.filter (¬used ·)).map (uniqueBytes layersById images)).sum =
      ∑ l ∈ (storeLayers layersById images).filter (fun l =>
          useCount layersById images l ≤ 1 ∧ useCount layersById (images.filter used) l = 0),
        layerSizeOf layersById l := by
  have hS : ∀ image ∈ images.filter (¬used ·), ∀ l ∈ walkImageLayers image layersById,
      l ∈ storeLayers layersById images := fun image himage l hl =>
    (mem_storeLayers layersById images).mpr ⟨image, (List.mem_filter.mp himage).1, hl⟩
  change ((images.filter (¬used ·)).map fun image => ∑ l ∈ (walkImageLayers image
    layersById).toFinset.filter (useCount layersById images · ≤ 1), layerSizeOf layersById l).sum = _
  rw [sum_walks_filter_eq layersById _ _ _ _ hS]
  conv_rhs => rw [← filter_filter, sum_filter]
  refine sum_congr rfl fun l hl => ?_
  obtain ⟨hstore, hle⟩ := mem_filter.mp hl
  have hpos := (mem_storeLayers_iff_useCount_pos layersById images).mp hstore
  have hsplit := useCount_filter_add_filter_not layersById images used l
  by_cases hkept : useCount layersById (images.filter used) l = 0
  · have hone : useCount layersById (images.filter (¬used ·)) l = 1 := by omega
    rw [if_pos hkept, hone, Nat.cast_one, one_mul]
  · have hzero : useCount layersById (images.filter (¬used ·)) l = 0 := by omega
    rw [if_neg hkept, hzero, Nat.cast_zero, zero_mul]

/-- Pruning every image that is not `used` frees the unique bytes of the pruned images and
the layers that only pruned images share. -/
theorem storeBytes_sub_prune :
    storeBytes layersById images - storeBytes layersById (images.filter used) =
      ((images.filter (¬used ·)).map (uniqueBytes layersById images)).sum +
        ∑ l ∈ (storeLayers layersById images).filter (fun l =>
            2 ≤ useCount layersById images l ∧ useCount layersById (images.filter used) l = 0),
          layerSizeOf layersById l := by
  rw [storeBytes_sub_filter, sum_uniqueBytes_filter_not,
    ← sum_filter_add_sum_filter_not _ (useCount layersById images · ≤ 1), filter_filter,
    filter_filter]
  congr 1 <;> refine sum_congr (filter_congr fun l _ => ?_) fun _ _ => rfl
  · exact and_comm
  · omega

end Prune

/-! ### The report -/

/-- `total_reclaimable` is the unique bytes of the images without containers. -/
theorem totalReclaimable_expectedUsage (images : List Image) (layers : List Layer)
    (volatileLayers : List VolatileLayer) :
    (expectedUsage images layers volatileLayers).totalReclaimable =
      ((images.filter fun image =>
          ¬(containersPerImage (layerToImage images) volatileLayers).getD image.id 0 ≠ 0).map
        (uniqueBytes (layersById layers) images)).sum := by
  simp only [expectedUsage, imageRecord]
  rw [List.sum_map_ite]
  simp

/-- Deleting every image the report shows without containers, and rerunning the report on
the others, lowers the total by the reclaimable figure plus the layers that only deleted
images share; so with non-negative sizes the figure never exceeds what the deletion
frees. -/
theorem diskUsage_prune_unused (images : List Image) (layers : List Layer)
    (volatileLayers : List VolatileLayer) (hid : (images.map Image.id).Nodup) :
    ∃ du du', diskUsage images layers volatileLayers = some du ∧
      diskUsage (images.filter fun image => du.containersPerImage.getD image.id 0 ≠ 0) layers
        volatileLayers = some du' ∧
      du.totalSize - du'.totalSize = du.totalReclaimable +
        ∑ l ∈ (storeLayers (layersById layers) images).filter (fun l =>
            2 ≤ useCount (layersById layers) images l ∧
            ∀ image ∈ images, l ∈ walkImageLayers image (layersById layers) →
              du.containersPerImage.getD image.id 0 = 0),
          layerSizeOf (layersById layers) l ∧
      ((∀ layer ∈ layers, 0 ≤ layerSize layer) →
        du.totalReclaimable ≤ du.totalSize - du'.totalSize) := by
  set perImage := containersPerImage (layerToImage images) volatileLayers
  have hid' : ((images.filter fun image => perImage.getD image.id 0 ≠ 0).map Image.id).Nodup :=
    ((List.filter_sublist images).map Image.id).nodup hid
  have hfreed : storeBytes (layersById layers) images -
      storeBytes (layersById layers) (images.filter fun image => perImage.getD image.id 0 ≠ 0) =
      (expectedUsage images layers volatileLayers).totalReclaimable +
        ∑ l ∈ (storeLayers (layersById layers) images).filter (fun l =>
            2 ≤ useCount (layersById layers) images l ∧
            ∀ image ∈ images, l ∈ walkImageLayers image (layersById layers) →
              perImage.getD image.id 0 = 0),
          layerSizeOf (layersById layers) l := by
    rw [storeBytes_sub_prune, totalReclaimable_expectedUsage]
    refine congrArg _ (sum_congr (filter_congr fun l _ => ?_) fun _ _ => rfl)
    rw [useCount_filter_eq_zero_iff]
    simp only [not_not]
  exact ⟨_, _, diskUsage_eq layers volatileLayers hid, diskUsage_eq layers volatileLayers hid',
    hfreed, fun hnn => (le_add_of_nonneg_right (sum_nonneg fun l _ =>
      layerSizeOf_nonneg hnn l)).trans_eq hfreed.symm⟩

/-- Two images without containers over a shared base, and one in use beside them. -/
theorem diskUsage_prune_unused_shared_base :
    (([⟨"aaaa", ["app-a:v1"], some "la"⟩, ⟨"bbbb", ["app-b:v1"], some "lb"⟩,
        ⟨"cccc", ["app-c:v1"], some "lc"⟩] : List Image).map Image.id).Nodup ∧
    ∃ du du', diskUsage [⟨"aaaa", ["app-a:v1"], some "la"⟩, ⟨"bbbb", ["app-b:v1"], some "lb"⟩,
          ⟨"cccc", ["app-c:v1"], some "lc"⟩]
        [⟨"base", none, some 1000, none⟩, ⟨"la", some "base", some 200, none⟩,
          ⟨"lb", some "base", some 300, none⟩, ⟨"lc", none, some 50, none⟩] [⟨some "lc"⟩] =
        some du ∧
      diskUsage ([⟨"aaaa", ["app-a:v1"], some "la"⟩, ⟨"bbbb", ["app-b:v1"], some "lb"⟩,
          ⟨"cccc", ["app-c:v1"], some "lc"⟩].filter fun image =>
            du.containersPerImage.getD image.id 0 ≠ 0)
        [⟨"base", none, some 1000, none⟩, ⟨"la", some "base", some 200, none⟩,
          ⟨"lb", some "base", some 300, none⟩, ⟨"lc", none, some 50, none⟩] [⟨some "lc"⟩] =
        some du' ∧
      du.totalReclaimable ≤ du.totalSize - du'.totalSize :=
  ⟨by decide, (diskUsage_prune_unused _ _ _ (by decide)).imp fun _ h =>
    h.imp fun _ h' => ⟨h'.1, h'.2.1, h'.2.2.2 (by decide)⟩⟩

/-- The gap is real: the two images without containers report 500 reclaimable bytes, but
deleting them frees 1500, their shared base included. -/
example :
    (diskUsage [⟨"aaaa", ["app-a:v1"], some "la"⟩, ⟨"bbbb", ["app-b:v1"], some "lb"⟩,
          ⟨"cccc", ["app-c:v1"], some "lc"⟩]
        [⟨"base", none, some 1000, none⟩, ⟨"la", some "base", some 200, none⟩,
          ⟨"lb", some "base", some 300, none⟩, ⟨"lc", none, some 50, none⟩] [⟨some "lc"⟩]).map
      (fun du => (du.totalSize, du.totalReclaimable)) = some (1550, 500) ∧
    (diskUsage [⟨"cccc", ["app-c:v1"], some "lc"⟩]
        [⟨"base", none, some 1000, none⟩, ⟨"la", some "base", some 200, none⟩,
          ⟨"lb", some "base", some 300, none⟩, ⟨"lc", none, some 50, none⟩] [⟨some "lc"⟩]).map
      (·.totalSize) = some 50 := by
  have hwa : walkImageLayers ⟨"aaaa", ["app-a:v1"], some "la"⟩
      (layersById [⟨"base", none, some 1000, none⟩, ⟨"la", some "base", some 200, none⟩,
        ⟨"lb", some "base", some 300, none⟩, ⟨"lc", none, some 50, none⟩]) = ["la", "base"] :=
    walkImageLayers_eq_of_walkLoopFuel (by decide)
  have hwb : walkImageLayers ⟨"bbbb", ["app-b:v1"], some "lb"⟩
      (layersById [⟨"base", none, some 1000, none⟩, ⟨"la", some "base", some 200, none⟩,
        ⟨"lb", some "base", some 300, none⟩, ⟨"lc", none, some 50, none⟩]) = ["lb", "base"] :=
    walkImageLayers_eq_of_walkLoopFuel (by decide)
  have hwc : walkImageLayers ⟨"cccc", ["app-c:v1"], some "lc"⟩
      (layersById [⟨"base", none, some 1000, none⟩, ⟨"la", some "base", some 200, none⟩,
        ⟨"lb", some "base", some 300, none⟩, ⟨"lc", none, some 50, none⟩]) = ["lc"] :=
    walkImageLayers_eq_of_walkLoopFuel (by decide)
  simp only [diskUsage, countLayers, List.foldl, hwa, hwb, hwc]
  exact ⟨rfl, rfl⟩

end CrioDf
