import Mathlib.Data.List.DropRight

/-!
# CamDriver.Lib.PosixPath

Absolute paths as text: joining and splitting them, and the entry of the file tree
that a path names.

Slashes in a row count as one and a trailing slash does not count, so several texts
name one entry.  `.` and `..` are names as any other: no path here is walked up.

* `resolve_slash` — the names of a path, split at any slash;
* `split_join` — the directory and the name of a joined path;
* `join_dirOf` — where joining them again gives the text it was made of.
-/

namespace PosixPath

abbrev Text := List Char

/-! ## The entry a path names -/

/-- The names on the way from the root to the entry. -/
def resolve (path : Text) : List Text := (path.splitOnP (· = '/')).filter (· ≠ [])

/-- A slash parts the components. -/
theorem resolve_slash (a b : Text) : resolve (a ++ '/' :: b) = resolve a ++ resolve b := by
  rw [resolve, List.splitOnP_append_cons a b (decide_eq_true rfl), List.filter_append]
  rfl

/-- A name is one component. -/
theorem resolve_of_name {n : Text} (h : '/' ∉ n) (hne : n ≠ []) : resolve n = [n] := by
  have hname : ∀ c ∈ n, decide (c = '/') = false :=
    fun c hc => decide_eq_false fun heq => h (heq ▸ hc)
  simp [resolve, List.splitOnP_eq_singleton hname, hne]

@[simp] theorem resolve_nil : resolve [] = [] := rfl

/-- Slashes alone are none. -/
theorem resolve_of_slashes {t : Text} (h : ∀ c ∈ t, c = '/') : resolve t = [] := by
  induction t with
  | nil => rfl
  | cons c cs ih =>
      obtain rfl := h c List.mem_cons_self
      exact (resolve_slash [] cs).trans (ih fun c hc => h c (List.mem_cons_of_mem _ hc))

/-- Trailing slashes do not count. -/
theorem resolve_append_slashes (t : Text) {s : Text} (h : ∀ c ∈ s, c = '/') :
    resolve (t ++ s) = resolve t := by
  cases s with
  | nil => rw [List.append_nil]
  | cons c cs =>
      obtain rfl := h c List.mem_cons_self
      rw [resolve_slash, resolve_of_slashes fun c hc => h c (List.mem_cons_of_mem _ hc),
        List.append_nil]

/-! ## Joining and splitting -/

/-- `rstrip('/')`. -/
def rstrip (t : Text) : Text := t.rdropWhile (· = '/')

/-- `os.path.join` of two. -/
def join (a b : Text) : Text :=
  if b.head? = some '/' then b
  else if a = [] ∨ a.getLast? = some '/' then a ++ b
  else a ++ '/' :: b

/-- The directory a text names, as a split gives it: without trailing slashes, unless
it is nothing else. -/
def dirOf (t : Text) : Text := if t.all (· = '/') then t else rstrip t

/-- `os.path.split`. -/
def split (t : Text) : Text × Text :=
  (dirOf (t.rdropWhile (· ≠ '/')), t.rtakeWhile (· ≠ '/'))

/-- What is stripped at the end is slashes. -/
theorem rstrip_append_slashes (t : Text) : ∃ s, t = rstrip t ++ s ∧ ∀ c ∈ s, c = '/' :=
  ⟨t.rtakeWhile (· = '/'), List.rdropWhile_append_rtakeWhile.symm,
    fun _ hc => by simpa using List.mem_rtakeWhile_imp hc⟩

/-- To strip them changes no component. -/
theorem resolve_rstrip (t : Text) : resolve (rstrip t) = resolve t := by
  obtain ⟨s, hs, hall⟩ := rstrip_append_slashes t
  rw [hs, resolve_append_slashes _ hall, ← hs]

/-- Nor does the directory part of a split. -/
theorem resolve_dirOf (t : Text) : resolve (dirOf t) = resolve t := by
  unfold dirOf
  split
  · rfl
  · exact resolve_rstrip t

/-- A join adds one component. -/
theorem resolve_join {a n : Text} (h : '/' ∉ n) (hne : n ≠ []) :
    resolve (join a n) = resolve a ++ [n] := by
  have hhead : n.head? ≠ some '/' := fun hs => h (List.mem_of_mem_head? hs)
  rw [join, if_neg hhead]
  split
  · next hlast =>
      rcases hlast with rfl | hlast
      · exact resolve_of_name h hne
      · obtain ⟨init, rfl⟩ := List.getLast?_eq_some_iff.mp hlast
        rw [List.append_assoc, List.singleton_append, resolve_slash, resolve_slash, resolve_nil,
          resolve_of_name h hne, List.append_nil]
  · rw [resolve_slash, resolve_of_name h hne]

/-- Behind the last slash comes the name. -/
theorem rdropWhile_append_name {t n : Text} (ht : t = [] ∨ t.getLast? = some '/') (h : '/' ∉ n) :
    (t ++ n).rdropWhile (· ≠ '/') = t := by
  induction n using List.reverseRecOn with
  | nil =>
      rw [List.append_nil]
      rcases ht with rfl | ht
      · rfl
      · obtain ⟨init, rfl⟩ := List.getLast?_eq_some_iff.mp ht
        exact List.rdropWhile_concat_neg _ _ _ (by simp)
  | append_singleton n c ih =>
      have hc : c ≠ '/' := fun heq => h (by simp [heq])
      rw [← List.append_assoc, List.rdropWhile_concat_pos _ _ _ (by simpa using hc)]
      exact ih fun hmem => h (List.mem_append_left _ hmem)

/-- A split cuts there. -/
theorem split_append_name {t n : Text} (ht : t = [] ∨ t.getLast? = some '/') (h : '/' ∉ n) :
    split (t ++ n) = (dirOf t, n) := by
  have hdrop := rdropWhile_append_name ht h
  have htake := @List.rdropWhile_append_rtakeWhile _ (fun c => decide (c ≠ '/')) (t ++ n)
  rw [hdrop] at htake
  rw [split, hdrop, List.append_cancel_left htake]

/-- A trailing slash does not change the directory. -/
theorem dirOf_concat_slash {t : Text} (hne : t ≠ []) (ht : t.getLast? ≠ some '/') :
    dirOf (t ++ ['/']) = dirOf t := by
  have hlast := t.getLast_mem hne
  have hchar : t.getLast hne ≠ '/' := fun heq => ht (heq ▸ List.getLast?_eq_some_getLast hne)
  have hall : t.all (· = '/') = false := by
    rw [← Bool.not_eq_true, List.all_eq_true]
    exact fun hall => hchar (of_decide_eq_true (hall _ hlast))
  rw [dirOf, dirOf, List.all_append, hall, Bool.false_and, if_neg (by simp), if_neg (by simp)]
  exact List.rdropWhile_concat_pos _ _ _ (by simp)

/-- **Split of a join**: the directory, and the name it was joined with. -/
theorem split_join {a n : Text} (h : '/' ∉ n) : split (join a n) = (dirOf a, n) := by
  have hhead : n.head? ≠ some '/' := fun hs => h (List.mem_of_mem_head? hs)
  rw [join, if_neg hhead]
  split
  · next hlast => exact split_append_name hlast h
  · next hlast =>
      push Not at hlast
      rw [← List.singleton_append, ← List.append_assoc, split_append_name (by simp) h,
        dirOf_concat_slash hlast.1 hlast.2]

/-- A name that goes on. -/
theorem join_append {a n : Text} (hn : n ≠ []) (h : '/' ∉ n) (s : Text) :
    join a (n ++ s) = join a n ++ s := by
  have hhead : n.head? ≠ some '/' := fun hs => h (List.mem_of_mem_head? hs)
  have hhead' : (n ++ s).head? ≠ some '/' := by
    rw [List.head?_append_of_ne_nil _ hn]
    exact hhead
  rw [join, join, if_neg hhead, if_neg hhead']
  split <;> simp

/-- Joining with the directory of a text that is not a row of slashes, or is one. -/
theorem join_dirOf {t n : Text} (ht : rstrip t ≠ [] ∨ t = ['/']) (h : '/' ∉ n) :
    join (dirOf t) n = rstrip t ++ '/' :: n := by
  have hhead : n.head? ≠ some '/' := fun hs => h (List.mem_of_mem_head? hs)
  rcases ht with hne | rfl
  · have hdir : dirOf t = rstrip t := by
      rw [dirOf, if_neg]
      intro hall
      refine hne (List.rdropWhile_eq_nil_iff.mpr fun c hc => ?_)
      exact List.all_eq_true.mp hall c hc
    have hlast : (rstrip t).getLast? ≠ some '/' := by
      have hnot := List.rdropWhile_last_not (fun c => decide (c = '/')) t hne
      rw [List.getLast?_eq_some_getLast hne]
      intro heq
      exact hnot (decide_eq_true (Option.some.inj heq))
    rw [hdir, join, if_neg hhead, if_neg (by simp [hne, hlast])]
  · rw [join, if_neg hhead, if_pos (by decide)]
    rfl

end PosixPath
