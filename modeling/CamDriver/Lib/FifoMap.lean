import Mathlib.Data.List.DropRight
import Mathlib.Data.List.Nodup

/-!
# CamDriver.Lib.FifoMap

A bounded map that forgets its oldest entries: an association list in
insertion order, written at the back and trimmed at the front.

`set` keeps the position of a key that is already there and appends a new one;
`trim n` drops the oldest entry while there are more than `n`.  The result the
users of this module need is `trim_set_rtake`: as long as every key that is
written is absent from the map, the map holds exactly the last `n` entries of
the list of all entries ever written.  `DistinctWithin` is the matching
condition on that list: within any window of `w` consecutive elements no two
agree.
-/

/-- An association list in insertion order, oldest entry first. -/
structure FifoMap (κ ν : Type*) where
  entries : List (κ × ν)
deriving DecidableEq, Repr

namespace FifoMap

variable {κ ν : Type*}

/-- The map with no entries. -/
def empty : FifoMap κ ν := ⟨[]⟩

/-- Drop entries from the front while more than `n` are left. -/
def trimList (n : Nat) : List (κ × ν) → List (κ × ν)
  | [] => []
  | e :: es => if n < es.length + 1 then trimList n es else e :: es

/-- Drop the oldest entries while more than `n` are left. -/
def trim (m : FifoMap κ ν) (n : Nat) : FifoMap κ ν := ⟨trimList n m.entries⟩

/-- Other values under the same keys. -/
def mapValues {μ : Type*} (f : ν → μ) (m : FifoMap κ ν) : FifoMap κ μ :=
  ⟨m.entries.map fun e => (e.1, f e.2)⟩

@[simp] theorem keys_mapValues {μ : Type*} (f : ν → μ) (m : FifoMap κ ν) :
    (m.mapValues f).entries.map Prod.fst = m.entries.map Prod.fst := by
  rw [mapValues, List.map_map]
  rfl

section Keys

variable [DecidableEq κ]

/-- The value stored under a key. -/
def get (m : FifoMap κ ν) (k : κ) : Option ν := m.entries.lookup k

/-- Store a value: in place for a known key, at the back for a new one. -/
def set (m : FifoMap κ ν) (k : κ) (v : ν) : FifoMap κ ν :=
  if (m.entries.lookup k).isSome then ⟨m.entries.map fun e => if e.1 = k then (k, v) else e⟩
  else ⟨m.entries ++ [(k, v)]⟩

/-- A key that is not there has no value. -/
theorem get_eq_none_iff {m : FifoMap κ ν} {k : κ} :
    m.get k = none ↔ k ∉ m.entries.map Prod.fst := by
  simp only [get, List.lookup_eq_none_iff, List.mem_map, not_exists, not_and]
  constructor
  · intro h e he hk
    have := h e he
    simp [hk] at this
  · intro h e he
    exact bne_iff_ne.mpr fun hk => h e he hk.symm

/-- With distinct keys, every entry is what its key looks up. -/
theorem get_eq_some_of_mem {m : FifoMap κ ν} {k : κ} {v : ν}
    (hn : (m.entries.map Prod.fst).Nodup) (h : (k, v) ∈ m.entries) : m.get k = some v := by
  obtain ⟨es⟩ := m
  induction es with
  | nil => cases h
  | cons e es ih =>
      rw [List.map_cons, List.nodup_cons] at hn
      rcases List.mem_cons.mp h with rfl | h'
      · simp [get]
      · have hne : (k == e.1) = false :=
          beq_eq_false_iff_ne.mpr fun hk => hn.1 (hk ▸ List.mem_map_of_mem h')
        have hi : es.lookup k = some v := ih hn.2 h'
        change (e :: es).lookup k = some v
        rw [List.lookup_cons, hne]
        exact hi

/-- What a key looks up is one of the entries. -/
theorem mem_of_get_eq_some {m : FifoMap κ ν} {k : κ} {v : ν} (h : m.get k = some v) :
    (k, v) ∈ m.entries := by
  obtain ⟨l₁, l₂, hl, -⟩ := List.lookup_eq_some_iff.mp h
  rw [hl]
  exact List.mem_append_right _ List.mem_cons_self

/-- A new key goes to the end. -/
theorem set_of_get_eq_none {m : FifoMap κ ν} {k : κ} (h : m.get k = none) (v : ν) :
    m.set k v = ⟨m.entries ++ [(k, v)]⟩ := by
  have h' : m.entries.lookup k = none := h
  simp [set, h']

/-- A write keeps the keys where they are, and adds a new one at the back. -/
theorem keys_set (m : FifoMap κ ν) (k : κ) (v : ν) :
    (m.set k v).entries.map Prod.fst =
      m.entries.map Prod.fst ++ (if (m.get k).isSome then [] else [k]) := by
  by_cases hk : (m.entries.lookup k).isSome
  · have hget : (m.get k).isSome := hk
    have hsame (e : κ × ν) : (if e.1 = k then (k, v) else e).1 = e.1 := by
      split <;> simp_all
    rw [set, if_pos hk, if_pos hget, List.append_nil, List.map_map]
    exact List.map_congr_left fun e _ => hsame e
  · have hget : ¬ (m.get k).isSome = true := hk
    rw [set, if_neg hk, if_neg hget]
    simp

/-- A key is there once at most. -/
theorem nodup_keys_set {m : FifoMap κ ν} (h : (m.entries.map Prod.fst).Nodup) (k : κ) (v : ν) :
    ((m.set k v).entries.map Prod.fst).Nodup := by
  rw [keys_set]
  split
  case isTrue => simpa using h
  case isFalse hk =>
    have hnew : k ∉ m.entries.map Prod.fst :=
      get_eq_none_iff.1 (Option.not_isSome_iff_eq_none.1 hk)
    rw [List.nodup_append]
    exact ⟨h, List.nodup_singleton k, by rintro a ha b hb rfl; simp_all⟩

/-- A write is no concern of the other keys. -/
theorem get_set_of_ne {m : FifoMap κ ν} {k k' : κ} (h : k' ≠ k) (v : ν) :
    (m.set k v).get k' = m.get k' := by
  have hne : (k' == k) = false := beq_eq_false_iff_ne.2 h
  unfold set
  split
  · obtain ⟨entries⟩ := m
    simp only [get]
    clear * - h hne
    induction entries with
    | nil => rfl
    | cons e entries ih =>
        rw [List.map_cons, List.lookup_cons, List.lookup_cons, ih]
        by_cases he : e.1 = k
        · have hother : (k' == e.1) = false := he ▸ hne
          simp [he, hne]
        · rw [if_neg he]
  · have hnone : [(k, v)].lookup k' = none := by
      rw [List.lookup_cons, hne]
      rfl
    simp [get, List.lookup_append, hnone]

/-- The value that was set is the one that is found. -/
theorem get_set_self (m : FifoMap κ ν) (k : κ) (v : ν) : (m.set k v).get k = some v := by
  unfold set
  split
  case isTrue hk =>
    obtain ⟨entries⟩ := m
    simp only [get] at hk ⊢
    induction entries with
    | nil => cases hk
    | cons e entries ih =>
        by_cases he : e.1 = k
        · simp [he]
        · have hne : (k == e.1) = false := beq_eq_false_iff_ne.2 (Ne.symm he)
          rw [List.lookup_cons, hne] at hk
          rw [List.map_cons, if_neg he, List.lookup_cons, hne]
          exact ih hk
  case isFalse hk =>
    have hnone : m.entries.lookup k = none := Option.not_isSome_iff_eq_none.1 hk
    simp [get, List.lookup_append, hnone]

/-- Writes, one after the other. -/
def update (m : FifoMap κ ν) (es : List (κ × ν)) : FifoMap κ ν :=
  es.foldl (fun m e => m.set e.1 e.2) m

/-- Many writes keep the keys apart. -/
theorem nodup_keys_update {m : FifoMap κ ν} (h : (m.entries.map Prod.fst).Nodup)
    (es : List (κ × ν)) : ((m.update es).entries.map Prod.fst).Nodup := by
  induction es generalizing m with
  | nil => exact h
  | cons e es ih => exact ih (nodup_keys_set h e.1 e.2)

/-- The last write of a key counts. -/
theorem get_update (m : FifoMap κ ν) (es : List (κ × ν)) (k : κ) :
    (m.update es).get k = (es.reverse.lookup k).or (m.get k) := by
  induction es generalizing m with
  | nil => rfl
  | cons e es ih =>
      have hlast : (m.set e.1 e.2).get k = ([e].lookup k).or (m.get k) := by
        by_cases hk : k = e.1
        · subst hk
          rw [get_set_self, List.lookup_cons, beq_self_eq_true]
          rfl
        · have hne : (k == e.1) = false := beq_eq_false_iff_ne.2 hk
          rw [get_set_of_ne hk, List.lookup_cons, hne]
          rfl
      change ((m.set e.1 e.2).update es).get k = _
      rw [ih, hlast, List.reverse_cons, List.lookup_append, Option.or_assoc]

/-- Only what was written is in the map. -/
theorem mem_update_empty {es : List (κ × ν)} {e : κ × ν}
    (h : e ∈ ((empty : FifoMap κ ν).update es).entries) : e ∈ es := by
  have hnodup : ((empty : FifoMap κ ν).entries.map Prod.fst).Nodup := List.nodup_nil
  have hget := get_eq_some_of_mem (nodup_keys_update hnodup es) h
  rw [get_update, show (empty : FifoMap κ ν).get e.1 = none from rfl, Option.or_none] at hget
  obtain ⟨l₁, l₂, hl, -⟩ := List.lookup_eq_some_iff.1 hget
  exact List.mem_reverse.1 (hl ▸ List.mem_append_right _ List.mem_cons_self)

/-- The later writes win. -/
theorem get_update_append (m : FifoMap κ ν) (es es' : List (κ × ν)) (k : κ) :
    (m.update (es ++ es')).get k = ((empty.update es').get k).or ((m.update es).get k) := by
  have hnone : (empty : FifoMap κ ν).get k = none := rfl
  simp only [get_update, List.reverse_append, List.lookup_append, Option.or_assoc, hnone,
    Option.or_none]

/-- A key that was not written has no value. -/
theorem get_update_eq_none {es : List (κ × ν)} {k : κ} (h : k ∉ es.map Prod.fst) :
    (empty.update es).get k = none := by
  rw [get_eq_none_iff]
  intro hk
  obtain ⟨e, he, rfl⟩ := List.mem_map.1 hk
  exact h (List.mem_map_of_mem (mem_update_empty he))

@[simp] theorem get_mapValues {μ : Type*} (f : ν → μ) (m : FifoMap κ ν) (k : κ) :
    (m.mapValues f).get k = (m.get k).map f := by
  obtain ⟨es⟩ := m
  simp only [get, mapValues]
  induction es with
  | nil => rfl
  | cons e es ih =>
      rw [List.map_cons, List.lookup_cons, List.lookup_cons, ih]
      split <;> rfl

end Keys

/-! ## Trimming -/

/-- A trim keeps the last entries. -/
theorem trimList_eq_rtake (n : Nat) (es : List (κ × ν)) : trimList n es = es.rtake n := by
  induction es with
  | nil => simp [trimList]
  | cons e es ih =>
      rw [trimList, ih]
      by_cases h : n < es.length + 1
      · rw [if_pos h, List.rtake, List.rtake, List.length_cons,
          show es.length + 1 - n = es.length - n + 1 by omega, List.drop_succ_cons]
      · rw [if_neg h, List.rtake, List.length_cons, show es.length + 1 - n = 0 by omega,
          List.drop_zero]

@[simp] theorem entries_trim (m : FifoMap κ ν) (n : Nat) :
    (m.trim n).entries = m.entries.rtake n := trimList_eq_rtake n _

/-- What is among the last `n` of a suffix is among the last `n` of the list. -/
theorem rtake_suffix {l l' : List κ} (h : l <:+ l') (n : Nat) : l.rtake n <:+ l'.rtake n := by
  obtain ⟨p, rfl⟩ := h
  by_cases hn : n ≤ l.length
  · have hp : (p ++ l).length - n = p.length + (l.length - n) := by
      rw [List.length_append]; omega
    have hsame : (p ++ l).rtake n = l.rtake n := by
      rw [List.rtake, List.rtake, hp, ← List.drop_drop, List.drop_left]
    simp only [hsame, List.suffix_rfl]
  · have hl : l.length - n = 0 := by omega
    have hp : (p ++ l).length - n ≤ p.length := by rw [List.length_append]; omega
    rw [List.rtake, List.rtake, hl, List.drop_zero, List.drop_append_of_le_length hp]
    exact List.suffix_append _ _

/-- Keeping the last `n` of an appended element only needs the last `n` before it. -/
theorem rtake_rtake_concat (n : Nat) (l : List κ) (x : κ) :
    (l.rtake n ++ [x]).rtake n = (l ++ [x]).rtake n := by
  have hlen : (l.rtake n).length = min n l.length := by simp [List.rtake]; omega
  simp only [List.rtake, List.length_append, List.length_singleton] at hlen ⊢
  rw [hlen, List.drop_append, List.drop_append, List.drop_drop, hlen]
  congr 2 <;> omega

/-- **Window lemma**: a map that holds the last `n` entries written, given a new
key and trimmed, again holds the last `n` entries written. -/
theorem trim_set_rtake [DecidableEq κ] {m : FifoMap κ ν} {n : Nat} {all : List (κ × ν)}
    (hm : m.entries = all.rtake n) {k : κ} (hk : m.get k = none) (v : ν) :
    ((m.set k v).trim n).entries = (all ++ [(k, v)]).rtake n := by
  rw [entries_trim, set_of_get_eq_none hk, hm, rtake_rtake_concat]

/-- They are no more than asked for. -/
theorem length_rtake_le (n : Nat) (l : List κ) : (l.rtake n).length ≤ n := by
  rw [List.rtake, List.length_drop]
  omega

/-! ## Histories of writes -/

section History

variable [DecidableEq κ]

/-- Write entries one after the other into a map that holds `n` of them. -/
def writes (n : Nat) (es : List (κ × ν)) : FifoMap κ ν :=
  es.foldl (fun m e => (m.set e.1 e.2).trim n) empty

/-- The keys that were new to such a map when they were written, oldest first. -/
def inserted (n : Nat) (ks : List κ) : List κ :=
  ks.foldl (fun fresh k => if k ∈ fresh.rtake n then fresh else fresh ++ [k]) []

/-- One write more, with its trim. -/
theorem writes_concat (n : Nat) (es : List (κ × ν)) (e : κ × ν) :
    writes n (es ++ [e]) = ((writes n es).set e.1 e.2).trim n := by
  simp [writes]

/-- A key that is still remembered is not inserted anew. -/
theorem inserted_concat (n : Nat) (ks : List κ) (k : κ) :
    inserted n (ks ++ [k]) =
      if k ∈ (inserted n ks).rtake n then inserted n ks else inserted n ks ++ [k] := by
  rw [inserted, List.foldl_append]
  rfl

/-- Keys that are all different are all inserted. -/
theorem inserted_of_nodup (n : Nat) {ks : List κ} (h : ks.Nodup) : inserted n ks = ks := by
  induction ks using List.reverseRecOn with
  | nil => rfl
  | append_singleton ks k ih =>
      rw [List.nodup_append] at h
      have hne : k ∉ ks.rtake n := fun hk => h.2.2 k (List.drop_subset _ _ hk) k (by simp) rfl
      rw [inserted_concat, ih h.1, if_neg hne]

/-- Each write inserts one key at most. -/
theorem inserted_append (n : Nat) (ks more : List κ) :
    ∃ extra, inserted n (ks ++ more) = inserted n ks ++ extra ∧ extra.length ≤ more.length := by
  induction more using List.reverseRecOn with
  | nil => exact ⟨[], by simp, le_rfl⟩
  | append_singleton more k ih =>
      obtain ⟨extra, heq, hlen⟩ := ih
      rw [← List.append_assoc, inserted_concat, List.length_append, List.length_singleton]
      split
      · exact ⟨extra, heq, by omega⟩
      · refine ⟨extra ++ [k], by rw [heq, List.append_assoc], ?_⟩
        rw [List.length_append, List.length_singleton]
        omega

/-- The last entry of a key, looked up from behind. -/
theorem lookup_reverse_append {before after : List (κ × ν)} {k : κ}
    (h : k ∉ after.map Prod.fst) (v : ν) :
    (before ++ (k, v) :: after).reverse.lookup k = some v := by
  have hafter : after.reverse.lookup k = none := by
    rw [List.lookup_eq_none_iff]
    intro e he
    rw [bne_iff_ne]
    rintro rfl
    exact h (List.mem_map_of_mem (List.mem_reverse.mp he))
  rw [List.reverse_append, List.reverse_cons, List.append_assoc, List.lookup_append, hafter]
  simp

/-- A map keeps its keys by age of their insertion, and for each the value written last. -/
structure Remembers (n : Nat) (es : List (κ × ν)) (m : FifoMap κ ν) : Prop where
  keys : m.entries.map Prod.fst = (inserted n (es.map Prod.fst)).rtake n
  last : ∀ e ∈ m.entries, es.reverse.lookup e.1 = some e.2

/-- A bounded map holds the last keys that were inserted, each with its last value. -/
theorem remembers_writes (n : Nat) (es : List (κ × ν)) : Remembers n es (writes n es) := by
  induction es using List.reverseRecOn with
  | nil => exact ⟨by simp [writes, inserted, empty], by simp [writes, empty]⟩
  | append_singleton es e ih =>
      obtain ⟨k, v⟩ := e
      rw [writes_concat]
      have hlookup (k' : κ) : (es ++ [(k, v)]).reverse.lookup k' =
          if k' = k then some v else es.reverse.lookup k' := by
        rw [List.reverse_append, List.reverse_singleton, List.singleton_append, List.lookup_cons]
        split <;> simp_all
      have hmem : k ∈ (inserted n (es.map Prod.fst)).rtake n ↔ ((writes n es).get k).isSome := by
        rw [← ih.keys, ← not_iff_not, ← get_eq_none_iff, Option.not_isSome_iff_eq_none]
      have hfst : (es ++ [(k, v)]).map Prod.fst = es.map Prod.fst ++ [k] := by simp
      by_cases hk : ((writes n es).get k).isSome
      · have hset : ((writes n es).set k v).entries =
            (writes n es).entries.map fun e => if e.1 = k then (k, v) else e := by
          have hk' : ((writes n es).entries.lookup k).isSome := hk
          rw [set, if_pos hk']
        have hkeys : ((writes n es).set k v).entries.map Prod.fst =
            (writes n es).entries.map Prod.fst := by
          rw [hset, List.map_map]
          refine List.map_congr_left fun e _ => ?_
          simp only [Function.comp]
          split <;> simp_all
        have htrim : (((writes n es).set k v).trim n).entries =
            ((writes n es).set k v).entries := by
          have hlen := congrArg List.length (hkeys.trans ih.keys)
          have hle := length_rtake_le n (inserted n (es.map Prod.fst))
          rw [List.length_map] at hlen
          rw [entries_trim, List.rtake, show _ - n = 0 by omega, List.drop_zero]
        constructor
        · rw [htrim, hkeys, ih.keys, hfst, inserted_concat, if_pos (hmem.mpr hk)]
        · intro e he
          rw [htrim, hset, List.mem_map] at he
          obtain ⟨e', he', rfl⟩ := he
          rw [hlookup]
          split
          · simp
          · exact ih.last e' he'
      · have hnone : (writes n es).get k = none := Option.not_isSome_iff_eq_none.mp hk
        constructor
        · rw [entries_trim, set_of_get_eq_none hnone, hfst, inserted_concat,
            if_neg (mt hmem.mp hk)]
          have hmap (l : List (κ × ν)) : (l.rtake n).map Prod.fst = (l.map Prod.fst).rtake n := by
            simp [List.rtake]
          rw [hmap, List.map_append, ih.keys, List.map_singleton, rtake_rtake_concat]
        · intro e he
          rw [entries_trim, set_of_get_eq_none hnone] at he
          rw [hlookup]
          rcases List.mem_append.mp (List.drop_subset _ _ he) with hold | hnew
          · have hne : e.1 ≠ k := fun heq =>
              get_eq_none_iff.mp hnone (heq ▸ List.mem_map_of_mem hold)
            rw [if_neg hne, ih.last e hold]
          · cases List.mem_singleton.mp hnew
            rw [if_pos rfl]

/-- **What is remembered**: the value written last, while fewer than `n` keys have been
inserted since the key was. -/
theorem get_writes (n : Nat) (es : List (κ × ν)) (k : κ) :
    (writes n es).get k =
      if k ∈ (inserted n (es.map Prod.fst)).rtake n then es.reverse.lookup k else none := by
  obtain ⟨hkeys, hlast⟩ := remembers_writes n es
  rw [← hkeys]
  split
  · next hk =>
      cases hget : (writes n es).get k with
      | none => exact absurd hk (get_eq_none_iff.mp hget)
      | some v => exact (hlast _ (mem_of_get_eq_some hget)).symm
  · next hk => exact get_eq_none_iff.mpr hk

/-- A map that holds anything at all holds something once it is written. -/
theorem getLast?_writes {n : Nat} (hn : 0 < n) {es : List (κ × ν)} (hes : es ≠ []) :
    ∃ e ∈ (writes n es).entries, (writes n es).entries.getLast? = some e := by
  have hinserted : inserted n (es.map Prod.fst) ≠ [] := by
    obtain ⟨init, last, rfl⟩ := List.eq_nil_or_concat es |>.resolve_left hes
    rw [List.map_concat, List.concat_eq_append, inserted_concat]
    split
    · next hmem =>
        rintro hnil
        rw [hnil] at hmem
        simp at hmem
    · simp
  have hkeys := congrArg List.length (remembers_writes n es).keys
  rw [List.length_map, List.rtake, List.length_drop] at hkeys
  have hpos := List.length_pos_iff.mpr hinserted
  have hne : (writes n es).entries ≠ [] := List.length_pos_iff.mp (by omega)
  exact ⟨_, List.getLast_mem hne, List.getLast?_eq_some_getLast hne⟩

end History

/-! ## Lists without close repetitions -/

/-- No two elements of a window of `w` consecutive elements agree. -/
def DistinctWithin (w : Nat) (l : List κ) : Prop :=
  ∀ i j : Nat, (hi : i < j) → (hj : j < l.length) → j < i + w → l[i] ≠ l[j]

theorem DistinctWithin.of_append {w : Nat} {l l' : List κ} (h : DistinctWithin w (l ++ l')) :
    DistinctWithin w l := by
  intro i j hi hj hw
  have hj' : j < (l ++ l').length := by rw [List.length_append]; omega
  have := h i j hi hj' hw
  rwa [List.getElem_append_left (by omega), List.getElem_append_left hj] at this

theorem DistinctWithin.of_append_right {w : Nat} {l l' : List κ}
    (h : DistinctWithin w (l ++ l')) : DistinctWithin w l' := by
  intro i j hi hj hw
  have := h (l.length + i) (l.length + j) (by omega) (by rw [List.length_append]; omega) (by omega)
  simpa [List.getElem_append_right] using this

/-- The next element differs from the `w - 1` elements before it. -/
theorem DistinctWithin.notMem_rtake {w : Nat} {l : List κ} {k : κ}
    (h : DistinctWithin (w + 1) (l ++ [k])) : k ∉ l.rtake w := by
  intro hk
  obtain ⟨i, hi, hik⟩ := List.mem_iff_getElem.mp hk
  simp only [List.rtake, List.length_drop, List.getElem_drop] at hi hik
  have hj : l.length < (l ++ [k]).length := by simp
  have hne := h (l.length - w + i) l.length (by omega) hj (by omega)
  rw [List.getElem_append_left (by omega)] at hne
  simp [hik] at hne

/-- A window has no repetitions. -/
theorem DistinctWithin.nodup_rtake {w : Nat} {l : List κ} (h : DistinctWithin w l) :
    (l.rtake w).Nodup := by
  rw [List.Nodup, List.pairwise_iff_getElem]
  intro i j hi hj hij
  simp only [List.rtake, List.length_drop, List.getElem_drop] at hi hj ⊢
  exact h _ _ (by omega) (by omega) (by omega)

theorem DistinctWithin.mono {w w' : Nat} (hw : w ≤ w') {l : List κ} (h : DistinctWithin w' l) :
    DistinctWithin w l := fun i j hi hj hlt => h i j hi hj (by omega)

end FifoMap
