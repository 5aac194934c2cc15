import Mathlib.Data.List.Dedup
import Mathlib.Data.List.Infix
import CamDriver.Lib.PosixPath

/-!
# CamDriver.Lib.Glob

Shell patterns (`fnmatch`) and their expansion over a tree of files (`glob`,
without `**`).

A tree is given by the paths of its entries; every path on the way to one is a
directory.  A pattern may happen to be plain text: `literal` says when a name is
read as itself, `readsItself` when a whole path is, and `mem_glob_join` what a name
pattern finds in such a directory.
-/

namespace Glob

open PosixPath

/-! ## Patterns -/

/-- A piece of a pattern; a set keeps the text between its brackets. -/
inductive Piece where
  | lit (c : Char)
  | any
  | star
  | set (stuff : Text)
deriving DecidableEq, Repr

/-- How much of the text behind a `[` cannot close it: a `!`, and a `]` in the first
place. -/
def skip : Text → Nat
  | [] => 0
  | [c] => if c = '!' ∨ c = ']' then 1 else 0
  | c :: d :: _ => if c = '!' then (if d = ']' then 2 else 1) else if c = ']' then 1 else 0

/-- The text between brackets and what follows, for the text behind a `[`; `none`: the
bracket does not close. -/
def bracket (t : Text) : Option (Text × Text) :=
  let body := t.drop (skip t)
  if ']' ∈ body then
    some (t.take (skip t) ++ body.takeWhile (· ≠ ']'), (body.dropWhile (· ≠ ']')).tail)
  else none

/-- The pieces of a pattern, read with this much fuel. -/
def piecesAux : Nat → Text → List Piece
  | 0, _ | _, [] => []
  | fuel + 1, c :: t =>
    if c = '*' then .star :: piecesAux fuel t
    else if c = '?' then .any :: piecesAux fuel t
    else if c = '[' then
      match bracket t with
      | some (stuff, rest) => .set stuff :: piecesAux fuel rest
      | none => .lit c :: piecesAux fuel t
    else .lit c :: piecesAux fuel t

def pieces (pattern : Text) : List Piece := piecesAux pattern.length pattern

/-- A character is one of a set's, given singly or in ranges. -/
def inSet (c : Char) : Text → Bool
  | lo :: '-' :: hi :: rest => (lo ≤ c && c ≤ hi) || inSet c rest
  | x :: rest => c = x || inSet c rest
  | [] => false

def setMatches (stuff : Text) (c : Char) : Bool :=
  match stuff with
  | '!' :: stuff => !inSet c stuff
  | stuff => inSet c stuff

/-- The whole text matches the pieces. -/
def matchPieces : List Piece → Text → Bool
  | [], t => t.isEmpty
  | .star :: ps, t => t.tails.any (matchPieces ps)
  | .lit c :: ps, x :: t => x = c && matchPieces ps t
  | .any :: ps, _ :: t => matchPieces ps t
  | .set stuff :: ps, x :: t => setMatches stuff x && matchPieces ps t
  | _ :: _, [] => false

/-- `fnmatch`. -/
def fnmatch (pattern name : Text) : Bool := matchPieces (pieces pattern) name

/-- A name that a pattern reads as itself: no `*`, no `?`, and no bracket that closes. -/
def literal : Text → Bool
  | [] => true
  | c :: t => c ≠ '*' && c ≠ '?' && (c ≠ '[' || (bracket t).isNone) && literal t

theorem bracket_eq_none_iff {t : Text} : bracket t = none ↔ ']' ∉ t.drop (skip t) := by
  simp [bracket]

theorem skip_le_append (t s : Text) : skip t ≤ skip (t ++ s) := by
  cases t with
  | nil => exact Nat.zero_le _
  | cons c t =>
      cases t with
      | cons d t => exact le_rfl
      | nil =>
          cases s with
          | nil => exact le_rfl
          | cons d s =>
              simp only [skip, List.singleton_append]
              split_ifs <;> simp_all

theorem bracket_append {t s : Text} (ht : bracket t = none) (hs : ']' ∉ s) :
    bracket (t ++ s) = none := by
  rw [bracket_eq_none_iff] at ht ⊢
  rw [List.drop_append]
  intro hmem
  rcases List.mem_append.mp hmem with hmem | hmem
  · exact ht ((List.drop_subset_drop_left t (skip_le_append t s)) hmem)
  · exact hs (List.mem_of_mem_drop hmem)

/-- Literal text in front of a pattern that closes no bracket. -/
theorem piecesAux_append {t s : Text} (ht : literal t = true) (hs : ']' ∉ s) {fuel : Nat}
    (hfuel : t.length ≤ fuel) :
    piecesAux fuel (t ++ s) = t.map .lit ++ piecesAux (fuel - t.length) s := by
  induction t generalizing fuel with
  | nil => simp
  | cons c t ih =>
      obtain ⟨fuel, rfl⟩ : ∃ n, fuel = n + 1 := ⟨fuel - 1, by simp at hfuel; omega⟩
      simp only [literal, Bool.and_eq_true, decide_eq_true_eq, Bool.or_eq_true] at ht
      obtain ⟨⟨⟨hstar, hany⟩, hbracket⟩, ht⟩ := ht
      have ih := @ih ht fuel (by simpa using hfuel)
      simp only [List.cons_append, piecesAux, if_neg hstar, if_neg hany, ih, List.map_cons,
        List.length_cons, Nat.add_sub_add_right]
      split
      · next hc =>
          have hnone := bracket_append (Option.isNone_iff_eq_none.mp (hbracket.resolve_left
            (not_not.mpr hc))) hs
          rw [hnone]
      · rfl

theorem matchPieces_lit (t : Text) (ps : List Piece) (name : Text) :
    matchPieces (t.map .lit ++ ps) name = true ↔
      ∃ rest, name = t ++ rest ∧ matchPieces ps rest = true := by
  induction t generalizing name with
  | nil => simp
  | cons c t ih =>
      cases name with
      | nil => simp [matchPieces]
      | cons x name =>
          simp only [List.map_cons, List.cons_append, matchPieces, Bool.and_eq_true,
            decide_eq_true_eq, ih]
          constructor
          · rintro ⟨rfl, rest, rfl, h⟩
            exact ⟨rest, rfl, h⟩
          · rintro ⟨rest, heq, h⟩
            obtain ⟨rfl, rfl⟩ := List.cons.inj heq
            exact ⟨rfl, rest, rfl, h⟩

theorem matchPieces_star (ps : List Piece) (name : Text) :
    matchPieces (.star :: ps) name = true ↔
      ∃ skipped rest, name = skipped ++ rest ∧ matchPieces ps rest = true := by
  simp only [matchPieces, List.any_eq_true, List.mem_tails]
  constructor
  · rintro ⟨rest, ⟨skipped, heq⟩, h⟩
    exact ⟨skipped, rest, heq.symm, h⟩
  · rintro ⟨skipped, rest, rfl, h⟩
    exact ⟨rest, List.suffix_append _ _, h⟩

/-- A literal pattern matches its own text alone. -/
theorem fnmatch_literal {t : Text} (ht : literal t = true) (name : Text) :
    fnmatch t name = true ↔ name = t := by
  have hpieces : pieces t = t.map .lit ++ [] := by
    have h := @piecesAux_append t [] ht (by simp) t.length le_rfl
    simpa [pieces, piecesAux] using h
  rw [fnmatch, hpieces, matchPieces_lit]
  simp [matchPieces]

/-- Text in front, then anything, then text at the end. -/
theorem fnmatch_between {t u v : Text} (ht : literal t = true) (hu : literal u = true)
    (hv : literal v = true) (hclose : ']' ∉ u ++ '*' :: v) (name : Text) :
    fnmatch (t ++ (u ++ '*' :: v)) name = true ↔ ∃ x, name = t ++ (u ++ (x ++ v)) := by
  have hclose' : ']' ∉ v := fun hmem => hclose (by simp [hmem])
  have hpieces : pieces (t ++ (u ++ '*' :: v)) =
      t.map .lit ++ (u.map .lit ++ .star :: (v.map .lit ++ [])) := by
    have hstar (fuel : Nat) : piecesAux (fuel + 1) ('*' :: v) = .star :: piecesAux fuel v := rfl
    have hlast (fuel : Nat) (h : v.length ≤ fuel) : piecesAux fuel v = v.map .lit ++ [] := by
      have h := @piecesAux_append v [] hv (by simp) fuel h
      have hnil : ∀ n, piecesAux n [] = [] := fun n => by cases n <;> rfl
      rwa [List.append_nil, hnil] at h
    rw [pieces, piecesAux_append ht hclose (by simp), piecesAux_append hu (by simp [hclose'])
      (by simp)]
    have hfuel : (t ++ (u ++ '*' :: v)).length - t.length - u.length = v.length + 1 := by
      simp only [List.length_append, List.length_cons]
      omega
    rw [hfuel, hstar, hlast _ le_rfl]
  rw [fnmatch, hpieces, matchPieces_lit]
  constructor
  · rintro ⟨behind, rfl, hbehind⟩
    obtain ⟨starred, rfl, hstarred⟩ := (matchPieces_lit u _ behind).mp hbehind
    obtain ⟨x, last, rfl, hlast⟩ := (matchPieces_star _ starred).mp hstarred
    obtain ⟨none, rfl, hnone⟩ := (matchPieces_lit v [] last).mp hlast
    obtain rfl := List.isEmpty_iff.mp hnone
    exact ⟨x, by simp⟩
  · rintro ⟨x, rfl⟩
    have hlast := (matchPieces_lit v [] v).mpr ⟨[], by simp, rfl⟩
    have hstarred := (matchPieces_star _ _).mpr ⟨x, v, rfl, hlast⟩
    exact ⟨_, rfl, (matchPieces_lit u _ _).mpr ⟨_, rfl, hstarred⟩⟩

/-- Text without any of a pattern's own characters goes on being read as itself. -/
theorem literal_append {t s : Text} (ht : literal t = true)
    (hs : ∀ c ∈ s, c ≠ '*' ∧ c ≠ '?' ∧ c ≠ '[' ∧ c ≠ ']') : literal (t ++ s) = true := by
  have hclose : ']' ∉ s := fun hmem => (hs _ hmem).2.2.2 rfl
  induction t with
  | nil =>
      induction s with
      | nil => rfl
      | cons c s ih =>
          obtain ⟨h1, h2, h3, -⟩ := hs c List.mem_cons_self
          have ih := ih (fun d hd => hs d (List.mem_cons_of_mem _ hd))
            (fun hmem => hclose (List.mem_cons_of_mem _ hmem))
          simpa [literal, h1, h2, h3] using ih
  | cons c t ih =>
      simp only [literal, Bool.and_eq_true, Bool.or_eq_true] at ht
      obtain ⟨⟨hwild, hbracket⟩, ht⟩ := ht
      simp only [List.cons_append, literal, Bool.and_eq_true, Bool.or_eq_true]
      refine ⟨⟨hwild, hbracket.imp_right fun h => ?_⟩, ih ht⟩
      rw [Option.isNone_iff_eq_none] at h ⊢
      exact bracket_append h hclose

/-! ## Trees -/

/-- The paths of the entries of a tree, each the names from the root on. -/
abbrev Tree := List (List Text)

/-- `os.path.lexists`. -/
def lexists (tree : Tree) (path : Text) : Bool := tree.any (resolve path <+: ·)

/-- `os.listdir`; of something that is no directory, nothing. -/
def listdir (tree : Tree) (dir : Text) : List Text :=
  (tree.filterMap fun entry =>
    if resolve dir <+: entry then entry[(resolve dir).length]? else none).dedup

theorem mem_listdir {tree : Tree} {dir name : Text} :
    name ∈ listdir tree dir ↔ ∃ below, resolve dir ++ name :: below ∈ tree := by
  simp only [listdir, List.mem_dedup, List.mem_filterMap, Option.ite_none_right_eq_some]
  constructor
  · rintro ⟨entry, hentry, ⟨rest, rfl⟩, hname⟩
    rw [List.getElem?_append_right le_rfl, Nat.sub_self] at hname
    obtain ⟨below, rfl⟩ : ∃ below, rest = name :: below := by
      cases rest with
      | nil => cases hname
      | cons x below => exact ⟨below, by rw [Option.some.inj hname]⟩
    exact ⟨below, hentry⟩
  · rintro ⟨below, hentry⟩
    exact ⟨_, hentry, List.prefix_append _ _, by simp⟩

/-! ## Expansion -/

/-- `has_magic`: a text with a character that a pattern may mean something by. -/
def hasMagic (t : Text) : Bool := t.any fun c => c = '*' || c = '?' || c = '['

def isHidden (t : Text) : Bool := t.head? = some '.'

/-- `_glob1`: the names of a directory that match. -/
def glob1 (tree : Tree) (dir pattern : Text) : List Text :=
  (listdir tree dir).filter fun name =>
    (isHidden pattern || !isHidden name) && fnmatch pattern name

/-- `_glob0`: a name without magic, if it is there. -/
def glob0 (tree : Tree) (dir name : Text) : List Text :=
  if lexists tree (join dir name) then [name] else []

/-- `_iglob`, with fuel for the directories on the way.  What is no directory lists
nothing, so nothing is lost by not asking. -/
def iglob (tree : Tree) : Nat → Text → List Text
  | 0, _ => []
  | fuel + 1, path =>
    let (dir, name) := split path
    if !hasMagic path then (if lexists tree path then [path] else [])
    else if dir = [] then glob1 tree [] name
    else
      let dirs := if dir ≠ path ∧ hasMagic dir then iglob tree fuel dir else [dir]
      dirs.flatMap fun dir =>
        (if hasMagic name then glob1 tree dir name else glob0 tree dir name).map (join dir)

/-- `glob.glob`. -/
def glob (tree : Tree) (path : Text) : List Text := iglob tree (path.length + 1) path

/-- With fuel for the directories: a path that is expanded to itself, as it is written. -/
def readsItselfAux : Nat → Text → Bool
  | 0, _ => false
  | fuel + 1, path =>
    let (dir, name) := split path
    !hasMagic path || (literal name && join dir name = path && dir ≠ [] &&
      (!hasMagic dir || (dir ≠ path && readsItselfAux fuel dir)))

def readsItself (path : Text) : Bool := readsItselfAux (path.length + 1) path

theorem readsItselfAux_mono {fuel more : Nat} {path : Text} (hle : fuel ≤ more)
    (h : readsItselfAux fuel path = true) : readsItselfAux more path = true := by
  induction fuel generalizing more path with
  | zero => cases h
  | succ fuel ih =>
      obtain ⟨more, rfl⟩ : ∃ n, more = n + 1 := ⟨more - 1, by omega⟩
      simp only [readsItselfAux, Bool.or_eq_true, Bool.and_eq_true] at h ⊢
      exact h.imp_right fun h => ⟨h.1, h.2.imp_right fun hdir => ⟨hdir.1, ih (by omega) hdir.2⟩⟩

theorem slash_notMem_split (path : Text) : '/' ∉ (split path).2 := fun hmem => by
  simpa using List.mem_rtakeWhile_imp hmem

theorem lexists_iff {tree : Tree} {path : Text} :
    lexists tree path = true ↔ ∃ entry ∈ tree, resolve path <+: entry := by
  simp [lexists]

/-- What is in a directory that is there makes the directory be there. -/
theorem lexists_of_join {tree : Tree} {dir name : Text} (hslash : '/' ∉ name)
    (h : lexists tree (join dir name) = true) : lexists tree dir = true := by
  have hpre : resolve dir <+: resolve (join dir name) := by
    by_cases hne : name = []
    · subst hne
      unfold join
      simp only [List.head?_nil, reduceCtorEq, if_false]
      split
      · rw [List.append_nil]
      · rw [resolve_slash]
        exact List.prefix_append _ _
    · rw [resolve_join hslash hne]
      exact List.prefix_append _ _
  obtain ⟨entry, hentry, hle⟩ := lexists_iff.mp h
  exact lexists_iff.mpr ⟨entry, hentry, hpre.trans hle⟩

/-- A literal name is found as itself. -/
theorem glob1_literal {tree : Tree} {dir name : Text} (hliteral : literal name = true)
    (hmem : name ∈ listdir tree dir) : glob1 tree dir name = [name] := by
  have hnodup : (listdir tree dir).Nodup := List.nodup_dedup _
  have hsame : ∀ x ∈ listdir tree dir,
      ((isHidden name || !isHidden x) && fnmatch name x) = (x == name) := by
    intro x _
    rw [Bool.eq_iff_iff, Bool.and_eq_true, fnmatch_literal hliteral, beq_iff_eq]
    refine and_iff_right_of_imp ?_
    rintro rfl
    cases isHidden x <;> rfl
  rw [glob1, List.filter_congr hsame, List.filter_beq, List.count_eq_one_of_mem hnodup hmem]
  rfl

/-- **Literal directories**: a directory that is read as itself is expanded to itself. -/
theorem iglob_of_readsItself {tree : Tree} {fuel : Nat} {path : Text}
    (h : readsItselfAux fuel path = true) (hexists : lexists tree path = true) :
    iglob tree fuel path = [path] := by
  induction fuel generalizing path with
  | zero => cases h
  | succ fuel ih =>
      simp only [readsItselfAux, Bool.or_eq_true, Bool.and_eq_true, decide_eq_true_eq,
        Bool.not_eq_true'] at h
      cases hmagic : hasMagic path with
      | false => simp [iglob, hmagic, hexists]
      | true =>
          obtain ⟨⟨⟨hliteral, hjoin⟩, hne⟩, hdir⟩ := h.resolve_left (by simp [hmagic])
          have hslash := slash_notMem_split path
          have hdirs : (if (split path).1 ≠ path ∧ hasMagic (split path).1 = true then
              iglob tree fuel (split path).1 else [(split path).1]) = [(split path).1] := by
            split
            · next hcond =>
                have hrec := hdir.resolve_left (by simp [hcond.2])
                exact ih hrec.2 (lexists_of_join hslash (by rw [hjoin]; exact hexists))
            · rfl
          have hname : (if hasMagic (split path).2 = true then
              glob1 tree (split path).1 (split path).2
              else glob0 tree (split path).1 (split path).2) = [(split path).2] := by
            split
            · next hmagicName =>
                refine glob1_literal hliteral (mem_listdir.mpr ?_)
                have hnil : (split path).2 ≠ [] := fun hnil => by
                  simp [hnil, hasMagic] at hmagicName
                rw [← hjoin, lexists_iff] at hexists
                obtain ⟨entry, hentry, ⟨below, rfl⟩⟩ := hexists
                rw [resolve_join hslash hnil] at hentry
                exact ⟨below, by simpa using hentry⟩
            · rw [glob0, hjoin, if_pos hexists]
          simp only [iglob, hmagic, Bool.not_true, Bool.false_eq_true, if_false, if_neg hne, hdirs,
            List.flatMap_singleton, hname, List.map_singleton, hjoin]

theorem hasMagic_join {dir pattern : Text} (hslash : '/' ∉ pattern)
    (hmagic : hasMagic pattern = true) : hasMagic (join dir pattern) = true := by
  have hhead : pattern.head? ≠ some '/' := fun hs => hslash (List.mem_of_mem_head? hs)
  rw [join, if_neg hhead]
  unfold hasMagic at hmagic ⊢
  split
  · rw [List.any_append, hmagic, Bool.or_true]
  · rw [List.any_append, List.any_cons, hmagic, Bool.or_true, Bool.or_true]

theorem length_dirOf_lt_join {dir pattern : Text} (hslash : '/' ∉ pattern) (hne : pattern ≠ []) :
    (dirOf dir).length < (join dir pattern).length := by
  have hhead : pattern.head? ≠ some '/' := fun hs => hslash (List.mem_of_mem_head? hs)
  have hdir : (dirOf dir).length ≤ dir.length := by
    unfold dirOf
    split
    · exact le_rfl
    · exact (List.rdropWhile_prefix _ dir).length_le
  have hpos := List.length_pos_iff.mpr hne
  rw [join, if_neg hhead]
  split <;> simp only [List.length_append, List.length_cons] <;> omega

/-- **Expansion of a name pattern** in a directory that is read as itself. -/
theorem mem_glob_join {tree : Tree} {dir pattern path : Text} (hslash : '/' ∉ pattern)
    (hmagic : hasMagic pattern = true) (hne : dirOf dir ≠ [])
    (hreads : readsItself (dirOf dir) = true) (hexists : lexists tree dir = true) :
    path ∈ glob tree (join dir pattern) ↔ ∃ name ∈ listdir tree dir,
      ((isHidden pattern || !isHidden name) && fnmatch pattern name) = true ∧
        path = join (dirOf dir) name := by
  have hlist : listdir tree (dirOf dir) = listdir tree dir := by
    rw [listdir, resolve_dirOf, listdir]
  have hthere : lexists tree (dirOf dir) = true := by
    rw [lexists, resolve_dirOf]
    exact hexists
  have hpattern : pattern ≠ [] := fun hnil => by simp [hnil, hasMagic] at hmagic
  have hlen := @length_dirOf_lt_join dir pattern hslash hpattern
  have hdirs : (if dirOf dir ≠ join dir pattern ∧ hasMagic (dirOf dir) = true then
      iglob tree (join dir pattern).length (dirOf dir) else [dirOf dir]) = [dirOf dir] := by
    split
    · exact iglob_of_readsItself (readsItselfAux_mono hlen hreads) hthere
    · rfl
  have hglob : glob tree (join dir pattern) =
      (glob1 tree (dirOf dir) pattern).map (join (dirOf dir)) := by
    simp only [glob, iglob, split_join hslash, hasMagic_join hslash hmagic, Bool.not_true,
      Bool.false_eq_true, if_false, if_neg hne, hdirs, List.flatMap_singleton, hmagic, if_true]
  rw [hglob, List.mem_map]
  constructor
  · rintro ⟨name, hname, rfl⟩
    obtain ⟨hmem, hmatch⟩ := List.mem_filter.mp hname
    exact ⟨name, hlist ▸ hmem, hmatch, rfl⟩
  · rintro ⟨name, hmem, hmatch, rfl⟩
    exact ⟨name, List.mem_filter.mpr ⟨hlist.symm ▸ hmem, hmatch⟩, rfl⟩

end Glob
