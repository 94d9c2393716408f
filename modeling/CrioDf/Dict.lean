import Mathlib.Data.List.Nodup
import Mathlib.Algebra.Ring.Int.Defs

/-!
# CrioDf.Dict

The Python `dict` of `crio-df.py`, as `main` and `get_compressed_sizes` use it.

A `Dict` is its list of entries in insertion order. Each key occurs once, and the
structure carries that invariant (`nodup`), so no operation can build a dict with a
repeated key. The operations are the ones the script performs:

* `get?` — `d.get(k)` (`none` when the key is absent; `d[k]` raises `KeyError` there);
* `insert` — `d[k] = v`: an existing key keeps its place and takes the new value, a new
  key goes last;
* `incr` — `d[k] += 1` on a `defaultdict(int)`.

The lemmas below describe whole loops of `insert` and `incr` (`get?_foldl_insert`,
`getD_foldl_incr`), which is how every dict of the script is built.
-/

namespace CrioDf

/-- A Python `dict`: entries in insertion order, each key at most once. -/
structure Dict (α β : Type) where
  entries : List (α × β)
  nodup : (entries.map Prod.fst).Nodup

namespace Dict

variable {α β : Type} [DecidableEq α]

/-! ### Entry lists -/

/-- The value stored under `k` in an entry list. -/
def lookupEntry (k : α) : List (α × β) → Option β
  | [] => none
  | e :: es => if e.1 = k then some e.2 else lookupEntry k es

/-- `d[k] = v` on an entry list: replace in place, or append. -/
def insertEntry (k : α) (v : β) : List (α × β) → List (α × β)
  | [] => [(k, v)]
  | e :: es => if e.1 = k then (k, v) :: es else e :: insertEntry k v es

theorem mem_insertEntry_keys {k x : α} {v : β} {es : List (α × β)} :
    x ∈ (insertEntry k v es).map Prod.fst ↔ x = k ∨ x ∈ es.map Prod.fst := by
  induction es with
  | nil => simp [insertEntry]
  | cons e es ih =>
    by_cases h : e.1 = k
    · simp [insertEntry, h]
    · simp only [insertEntry, h, if_false, List.map_cons, List.mem_cons, ih]
      exact or_left_comm

theorem nodup_insertEntry {k : α} {v : β} {es : List (α × β)} (h : (es.map Prod.fst).Nodup) :
    ((insertEntry k v es).map Prod.fst).Nodup := by
  induction es with
  | nil => simp [insertEntry]
  | cons e es ih =>
    rw [List.map_cons, List.nodup_cons] at h
    by_cases he : e.1 = k
    · simpa [insertEntry, he] using h
    · simp only [insertEntry, he, if_false, List.map_cons, List.nodup_cons, mem_insertEntry_keys]
      exact ⟨fun h' => h'.elim id h.1, ih h.2⟩

theorem lookupEntry_insertEntry (k x : α) (v : β) (es : List (α × β)) :
    lookupEntry x (insertEntry k v es) = if x = k then some v else lookupEntry x es := by
  induction es with
  | nil =>
    by_cases h : x = k
    · simp [insertEntry, lookupEntry, h]
    · simp [insertEntry, lookupEntry, h, Ne.symm h]
  | cons e es ih =>
    by_cases he : e.1 = k
    · subst he
      by_cases h : x = e.1 <;> simp [insertEntry, lookupEntry, h, eq_comm]
    · by_cases h : e.1 = x
      · subst h; simp [insertEntry, lookupEntry, he, Ne.symm he]
      · simp [insertEntry, lookupEntry, he, h, ih]

theorem isSome_lookupEntry {k : α} {es : List (α × β)} :
    (lookupEntry k es).isSome ↔ k ∈ es.map Prod.fst := by
  induction es with
  | nil => simp [lookupEntry]
  | cons e es ih =>
    rw [List.map_cons, List.mem_cons]
    by_cases h : e.1 = k
    · simp [lookupEntry, h]
    · simp [lookupEntry, h, ih, Ne.symm h]

theorem lookupEntry_of_mem {es : List (α × β)} (h : (es.map Prod.fst).Nodup) {e : α × β}
    (he : e ∈ es) : lookupEntry e.1 es = some e.2 := by
  induction es with
  | nil => simp at he
  | cons e' es ih =>
    rw [List.map_cons, List.nodup_cons] at h
    rcases List.mem_cons.mp he with rfl | he
    · simp [lookupEntry]
    · have hne : e'.1 ≠ e.1 := fun heq => h.1 (heq ▸ List.mem_map_of_mem Prod.fst he)
      simp [lookupEntry, hne, ih h.2 he]

theorem mem_of_lookupEntry {k : α} {v : β} :
    ∀ {es : List (α × β)}, lookupEntry k es = some v → (k, v) ∈ es
  | [], h => by simp [lookupEntry] at h
  | e :: es, h => by
    unfold lookupEntry at h
    split at h
    · cases h
      exact List.mem_cons.2 (.inl (Prod.ext ‹e.1 = k›.symm rfl))
    · exact List.mem_cons_of_mem _ (mem_of_lookupEntry h)

/-! ### Operations -/

/-- `{}`. -/
def empty : Dict α β := ⟨[], List.nodup_nil⟩

/-- `d.keys()`, in insertion order. -/
def keys (d : Dict α β) : List α := d.entries.map Prod.fst

/-- `d.values()`, in insertion order. -/
def values (d : Dict α β) : List β := d.entries.map Prod.snd

/-- `d.get(k)`. -/
def get? (d : Dict α β) (k : α) : Option β := lookupEntry k d.entries

/-- `d.get(k, default)`. -/
def getD (d : Dict α β) (k : α) (default : β) : β := (d.get? k).getD default

/-- `d[k] = v`. -/
def insert (d : Dict α β) (k : α) (v : β) : Dict α β :=
  ⟨insertEntry k v d.entries, nodup_insertEntry d.nodup⟩

/-- `d[k] += 1` on a `defaultdict(int)`. -/
def incr (d : Dict α Nat) (k : α) : Dict α Nat := d.insert k (d.getD k 0 + 1)

omit [DecidableEq α] in
theorem keys_nodup (d : Dict α β) : d.keys.Nodup := d.nodup

@[simp] theorem get?_empty (k : α) : (empty : Dict α β).get? k = none := rfl

omit [DecidableEq α] in
@[simp] theorem keys_empty : (empty : Dict α β).keys = [] := rfl

@[simp] theorem get?_insert (d : Dict α β) (k x : α) (v : β) :
    (d.insert k v).get? x = if x = k then some v else d.get? x :=
  lookupEntry_insertEntry k x v d.entries

@[simp] theorem mem_keys_insert {d : Dict α β} {k x : α} {v : β} :
    x ∈ (d.insert k v).keys ↔ x = k ∨ x ∈ d.keys :=
  mem_insertEntry_keys

theorem mem_keys_iff {d : Dict α β} {k : α} : k ∈ d.keys ↔ (d.get? k).isSome :=
  isSome_lookupEntry.symm

theorem mem_entries_iff {d : Dict α β} {k : α} {v : β} : (k, v) ∈ d.entries ↔ d.get? k = some v :=
  ⟨lookupEntry_of_mem d.nodup, mem_of_lookupEntry⟩

theorem mem_keys_of_get? {d : Dict α β} {k : α} {v : β} (h : d.get? k = some v) : k ∈ d.keys :=
  mem_keys_iff.mpr (by simp [h])

@[simp] theorem getD_incr (d : Dict α Nat) (k x : α) :
    (d.incr k).getD x 0 = d.getD x 0 + if x = k then 1 else 0 := by
  by_cases h : x = k <;> simp [incr, getD, h]

@[simp] theorem mem_keys_incr {d : Dict α Nat} {k x : α} : x ∈ (d.incr k).keys ↔ x = k ∨ x ∈ d.keys :=
  mem_keys_insert

/-- The values, read back through the keys. -/
theorem values_eq_map_keys (d : Dict α β) (default : β) :
    d.values = d.keys.map (d.getD · default) := by
  simp only [values, keys, List.map_map]
  exact List.map_congr_left fun e he => by simp [getD, get?, lookupEntry_of_mem d.nodup he]

/-! ### Loops of `insert` and `incr` -/

/-- A loop of `d[key x] = val x`: the last write wins. -/
theorem get?_foldl_insert {γ : Type} (key : γ → α) (val : γ → β) (xs : List γ) (d : Dict α β)
    (k : α) :
    (xs.foldl (fun d x => d.insert (key x) (val x)) d).get? k =
      ((xs.reverse.find? (key · = k)).map val).or (d.get? k) := by
  induction xs generalizing d with
  | nil => simp
  | cons x xs ih =>
    rw [List.foldl_cons, ih, List.reverse_cons, List.find?_append]
    cases xs.reverse.find? (key · = k) with
    | some y => simp
    | none =>
      by_cases h : key x = k
      · subst h; simp
      · simp [h, Ne.symm h]

theorem mem_keys_foldl_insert {γ : Type} (key : γ → α) (val : γ → β) (xs : List γ) (d : Dict α β)
    (k : α) : k ∈ (xs.foldl (fun d x => d.insert (key x) (val x)) d).keys ↔
      (∃ x ∈ xs, key x = k) ∨ k ∈ d.keys := by
  induction xs generalizing d with
  | nil => simp
  | cons x xs ih => simp only [List.foldl_cons, ih, mem_keys_insert, List.mem_cons]; aesop

/-- A loop of `d[key x] += 1` counts the elements with each key. -/
theorem getD_foldl_incr {γ : Type} (key : γ → α) (xs : List γ) (d : Dict α Nat) (k : α) :
    (xs.foldl (fun d x => d.incr (key x)) d).getD k 0 = d.getD k 0 + xs.countP (key · = k) := by
  induction xs generalizing d with
  | nil => simp
  | cons x xs ih =>
    rw [List.foldl_cons, ih, getD_incr, List.countP_cons]
    by_cases h : key x = k
    · subst h; simp; omega
    · simp [h, Ne.symm h]

theorem mem_keys_foldl_incr {γ : Type} (key : γ → α) (xs : List γ) (d : Dict α Nat) (k : α) :
    k ∈ (xs.foldl (fun d x => d.incr (key x)) d).keys ↔ (∃ x ∈ xs, key x = k) ∨ k ∈ d.keys := by
  induction xs generalizing d with
  | nil => simp
  | cons x xs ih => simp only [List.foldl_cons, ih, mem_keys_incr, List.mem_cons]; aesop

end Dict

end CrioDf
