import Mathlib.Data.List.Basic
import Mathlib.Data.List.DropRight

/-!
# CamDriver.Lib.Shell

Quoting for the shell, and the shell that reads it: words, single and double quotes, one
command a line.  Where a text has an operator, an expansion or a pattern, `parse` gives up, so
a text it reads can do nothing else.

`evaluated_eq` is the round trip: what is printed as `KEY=value` lines, put behind `export` by
`sed` and evaluated, comes to those assignments and nothing more.
-/

namespace Shell

/-- Text, one character at a time. -/
abbrev Text := List Char

/-! ## Quoting -/

/-- A character that means itself, outside quotes and wherever it stands. -/
def safe (c : Char) : Bool := c.isAlphanum || "_@%+=:,./-".toList.contains c

/-- One character inside single quotes; a quote ends them and stands in double quotes. -/
def quoteChar (c : Char) : Text := if c = '\'' then "'\"'\"'".toList else [c]

/-- Python's `shlex.quote`. -/
def quote (s : Text) : Text :=
  if s = [] then "''".toList
  else if s.all safe then s
  else '\'' :: s.flatMap quoteChar ++ ['\'']

/-! ## Reading -/

inductive Mode where
  | plain | single | double
deriving DecidableEq, Repr

/-- The words of a command, with the one that is being read. -/
def words (done : List Text) (word : Option Text) : List Text := done ++ word.toList

/-- The end of a command; a blank line is none. -/
def endCommand (done : List Text) (word : Option Text) : List (List Text) :=
  if words done word = [] then [] else [words done word]

/-- The commands of a text, each by its words; `none` for what is not just words. -/
def lex (mode : Mode) (done : List Text) (word : Option Text) :
    Text → Option (List (List Text))
  | [] => if mode = .plain then some (endCommand done word) else none
  | c :: cs =>
    match mode with
    | .single =>
      if c = '\'' then lex .plain done word cs
      else lex .single done (some (word.getD [] ++ [c])) cs
    | .double =>
      if c = '"' then lex .plain done word cs
      else if "$`\\!".toList.contains c then none
      else lex .double done (some (word.getD [] ++ [c])) cs
    | .plain =>
      if c = '\'' then lex .single done (some (word.getD [])) cs
      else if c = '"' then lex .double done (some (word.getD [])) cs
      else if c = ' ' then lex .plain (words done word) none cs
      else if c = '\n' then (lex .plain [] none cs).map (endCommand done word ++ ·)
      else if safe c then lex .plain done (some (word.getD [] ++ [c])) cs
      else none

def parse (text : Text) : Option (List (List Text)) := lex .plain [] none text

section Lex

variable (done : List Text)

/-- A safe character joins the word. -/
theorem lex_safe (word : Option Text) {c : Char} (h : safe c = true) (cs : Text) :
    lex .plain done word (c :: cs) = lex .plain done (some (word.getD [] ++ [c])) cs := by
  have hne : ∀ d, safe d = false → c ≠ d := by
    rintro d hd rfl
    simp [h] at hd
  have hquote := hne '\'' (by decide)
  have hdouble := hne '"' (by decide)
  have hspace := hne ' ' (by decide)
  have hline := hne '\n' (by decide)
  simp [lex, hquote, hdouble, hspace, hline, h]

/-- So does a text of safe characters. -/
theorem lex_allSafe (word : Text) {s : Text} (h : s.all safe = true) (cs : Text) :
    lex .plain done (some word) (s ++ cs) = lex .plain done (some (word ++ s)) cs := by
  induction s generalizing word with
  | nil => simp
  | cons c s ih =>
      simp only [List.all_cons, Bool.and_eq_true] at h
      rw [List.cons_append, lex_safe done _ h.1, Option.getD_some, ih _ h.2, List.append_assoc,
        List.singleton_append]

/-- A quoted character joins it as itself. -/
theorem lex_quoteChar (word : Text) (c : Char) (cs : Text) :
    lex .single done (some word) (quoteChar c ++ cs) =
      lex .single done (some (word ++ [c])) cs := by
  unfold quoteChar
  split
  case isTrue hquote =>
    subst hquote
    simp [lex]
  case isFalse hquote => simp [lex, hquote]

/-- So does a quoted text. -/
theorem lex_quoted (word : Text) (s cs : Text) :
    lex .single done (some word) (s.flatMap quoteChar ++ cs) =
      lex .single done (some (word ++ s)) cs := by
  induction s generalizing word with
  | nil => simp
  | cons c s ih =>
      rw [List.flatMap_cons, List.append_assoc, lex_quoteChar, ih, List.append_assoc,
        List.singleton_append]

/-- A quoted text is read back, whatever it holds. -/
theorem lex_quote (word : Text) (s cs : Text) :
    lex .plain done (some word) (quote s ++ cs) = lex .plain done (some (word ++ s)) cs := by
  unfold quote
  split
  case isTrue hnil =>
    subst hnil
    simp [lex]
  case isFalse =>
    split
    case isTrue hsafe => exact lex_allSafe done word hsafe cs
    case isFalse =>
      have hopen (rest : Text) : lex .plain done (some word) ('\'' :: rest) =
          lex .single done (some word) rest := by simp [lex]
      rw [List.cons_append, List.cons_append, hopen, List.append_assoc, lex_quoted]
      simp [lex]

end Lex

/-! ## Lines -/

/-- `sed 's/^/mark/'`; `start`: at the start of a line. -/
def markLines (mark : Text) (start : Bool) : Text → Text
  | [] => []
  | c :: cs => (if start then mark else []) ++ c :: markLines mark (c = '\n') cs

/-- What `$(...)` hands on: not the line ends behind the text. -/
def substitute (text : Text) : Text := text.rdropWhile (· = '\n')

/-- At the start of a line the mark comes first. -/
theorem markLines_start (mark : Text) {text : Text} (h : text ≠ []) :
    markLines mark true text = mark ++ markLines mark false text := by
  cases text with
  | nil => exact absurd rfl h
  | cons c cs => simp [markLines]

/-- A text inside a line, with the mark behind each of its own line ends. -/
def marked (mark s : Text) : Text := s.flatMap fun c => if c = '\n' then c :: mark else [c]

/-- A text of one line gets no mark inside. -/
theorem marked_eq_self {mark s : Text} (h : '\n' ∉ s) : marked mark s = s := by
  rw [marked, List.flatMap_congr (g := fun c => [c])]
  · simp
  · intro c hc
    have hne : c ≠ '\n' := by
      rintro rfl
      exact h hc
    rw [if_neg hne]

/-- The marks of a text and of what follows it. -/
theorem markLines_append (mark : Text) (s : Text) (c : Char) (cs : Text) :
    markLines mark false (s ++ c :: cs) =
      marked mark s ++ c :: markLines mark (c = '\n') cs := by
  induction s with
  | nil => simp [markLines, marked]
  | cons d s ih =>
      rw [List.cons_append, markLines]
      by_cases hline : d = '\n'
      · rw [decide_eq_true hline, markLines_start mark (by simp), ih]
        simp [marked, hline]
      · rw [decide_eq_false hline, ih]
        simp [marked, hline]

/-- A mark without quotes goes through the quoting. -/
theorem marked_quoted {mark : Text} (h : '\'' ∉ mark) (s : Text) :
    marked mark (s.flatMap quoteChar) = (marked mark s).flatMap quoteChar := by
  have hmark : mark.flatMap quoteChar = mark := by
    rw [List.flatMap_congr (g := fun c => [c])]
    · simp
    · intro c hc
      have hne : c ≠ '\'' := by
        rintro rfl
        exact h hc
      rw [quoteChar, if_neg hne]
  induction s with
  | nil => rfl
  | cons c s ih =>
      have happ (xs ys : Text) : marked mark (xs ++ ys) = marked mark xs ++ marked mark ys :=
        List.flatMap_append
      rw [List.flatMap_cons, happ, ih, ← List.singleton_append, happ, List.flatMap_append]
      congr 1
      by_cases hline : c = '\n'
      · subst hline
        simp [marked, quoteChar, hmark]
      · by_cases hquote : c = '\''
        · subst hquote
          simp [marked, quoteChar]
        · simp [marked, quoteChar, hline, hquote]

/-- Marks are put inside the quotes, where they are text. -/
theorem marked_quote {mark : Text} (h : '\'' ∉ mark) (s : Text) :
    marked mark (quote s) = quote (marked mark s) := by
  by_cases hnil : s = []
  · subst hnil
    simp [marked, quote]
  by_cases hsafe : s.all safe = true
  · have hline : '\n' ∉ s := by
      intro hmem
      have hbad := List.all_eq_true.1 hsafe _ hmem
      revert hbad
      decide
    rw [marked_eq_self hline, quote, if_neg hnil, if_pos hsafe, marked_eq_self hline]
  · have hne : marked mark s ≠ [] := by
      obtain ⟨c, s', rfl⟩ := List.exists_cons_of_ne_nil hnil
      simp only [marked, List.flatMap_cons]
      split <;> simp
    have hunsafe : ¬ (marked mark s).all safe = true := by
      simp only [List.all_eq_true, not_forall] at hsafe ⊢
      obtain ⟨c, hc, hbad⟩ := hsafe
      refine ⟨c, List.mem_flatMap.2 ⟨c, hc, ?_⟩, hbad⟩
      split <;> simp
    rw [quote, if_neg hnil, if_neg hsafe, quote, if_neg hne, if_neg hunsafe, ← marked_quoted h]
    simp [marked]

/-- A command line does not need its line end. -/
theorem lex_concat_line {mode : Mode} {done : List Text} {word : Option Text} {text : Text}
    {commands : List (List Text)}
    (h : lex mode done word (text ++ ['\n']) = some commands) :
    lex mode done word text = some commands := by
  induction text generalizing mode done word commands with
  | nil =>
      cases mode with
      | plain => simpa [lex, endCommand, words] using h
      | single => simp [lex] at h
      | double => simp [lex] at h
  | cons c text ih =>
      rw [List.cons_append, lex.eq_def] at h
      rw [lex.eq_def]
      cases mode with
      | single =>
          dsimp only at h ⊢
          split
          case isTrue hquote => exact ih (by simpa [hquote] using h)
          case isFalse hquote => exact ih (by simpa [hquote] using h)
      | double =>
          dsimp only at h ⊢
          split
          case isTrue hquote => exact ih (by simpa [hquote] using h)
          case isFalse hquote =>
            rw [if_neg hquote] at h
            split
            case isTrue hspecial =>
              rw [if_pos hspecial] at h
              cases h
            case isFalse hspecial =>
              rw [if_neg hspecial] at h
              exact ih h
      | plain =>
          dsimp only at h ⊢
          split_ifs at h ⊢
          · exact ih h
          · exact ih h
          · exact ih h
          · obtain ⟨rest, hrest, rfl⟩ := Option.map_eq_some_iff.1 h
            rw [ih hrest, Option.map_some]
          · exact ih h

/-- What a substitution drops at the end is no command. -/
theorem parse_substitute {text : Text} {commands : List (List Text)}
    (h : parse text = some commands) : parse (substitute text) = some commands := by
  induction text using List.reverseRecOn with
  | nil => exact h
  | append_singleton text c ih =>
      by_cases hline : c = '\n'
      · subst hline
        rw [substitute, List.rdropWhile_concat_pos _ _ _ (by simp)]
        exact ih (lex_concat_line h)
      · rwa [substitute, List.rdropWhile_concat_neg _ _ _ (by simpa using hline)]

/-! ## Assignments -/

/-- A name of the shell. -/
def isName (name : Text) : Bool :=
  name.all (fun c => c.isAlphanum || c = '_') && (name.head?.any fun c => !c.isDigit)

/-- The assignment of an `export KEY=value`. -/
def assignment? : List Text → Option (Text × Text)
  | [command, word] =>
    let name := word.takeWhile (· ≠ '=')
    if command = "export".toList ∧ '=' ∈ word ∧ isName name then
      some (name, word.drop (name.length + 1))
    else none
  | _ => none

/-- `print(f"{k}={shlex.quote(v)}")`. -/
def line (entry : Text × Text) : Text := entry.1 ++ '=' :: quote entry.2 ++ ['\n']

/-- The word that puts a line into the environment. -/
def exportMark : Text := "export ".toList

/-- A name has only letters, digits and underscores. -/
theorem notMem_of_isName {name : Text} (h : isName name = true) {c : Char}
    (hc : (c.isAlphanum || c = '_') = false) : c ∉ name := by
  intro hmem
  simp only [isName, Bool.and_eq_true, List.all_eq_true] at h
  have hall := h.1 c hmem
  simp [hc] at hall

/-- A name needs no quoting. -/
theorem allSafe_of_isName {name : Text} (h : isName name = true) : name.all safe = true := by
  simp only [isName, Bool.and_eq_true, List.all_eq_true] at h
  refine List.all_eq_true.2 fun c hc => ?_
  have hword := h.1 c hc
  unfold safe
  rcases Bool.or_eq_true_iff.1 hword with halnum | hunder
  · simp [halnum]
  · simp [of_decide_eq_true hunder]

/-- A line, as `sed` leaves it. -/
theorem markLines_line (entry : Text × Text) (hname : isName entry.1 = true) (rest : Text) :
    markLines exportMark true (line entry ++ rest) =
      exportMark ++ (entry.1 ++ '=' :: quote (marked exportMark entry.2)) ++
        '\n' :: markLines exportMark true rest := by
  have hline : '\n' ∉ entry.1 := notMem_of_isName hname (by decide)
  have hmark : '\'' ∉ exportMark := by decide
  have hsplit : line entry ++ rest = (entry.1 ++ '=' :: quote entry.2) ++ '\n' :: rest := by
    simp [line]
  have hvalue : marked exportMark (entry.1 ++ '=' :: quote entry.2) =
      entry.1 ++ '=' :: quote (marked exportMark entry.2) := by
    rw [← marked_quote hmark, marked, List.flatMap_append]
    change marked exportMark entry.1 ++ _ = _
    rw [marked_eq_self hline]
    simp [marked]
  rw [hsplit, markLines_start _ (by simp), markLines_append, hvalue]
  simp

/-- One line of exports is read back as one command. -/
theorem lex_export (entry : Text × Text) (hname : isName entry.1 = true) (rest : Text) :
    lex .plain [] none (exportMark ++ (entry.1 ++ '=' :: quote entry.2) ++ '\n' :: rest) =
      (lex .plain [] none rest).map
        (["export".toList, entry.1 ++ '=' :: entry.2] :: ·) := by
  have hopen (cs : Text) : lex .plain [] none (exportMark ++ cs) =
      lex .plain ["export".toList] none cs := rfl
  have hsafe := allSafe_of_isName hname
  obtain ⟨c, name, hcons⟩ : ∃ c name, entry.1 = c :: name := by
    refine List.exists_cons_of_ne_nil ?_
    rintro hnil
    simp [isName, hnil] at hname
  rw [hcons, List.all_cons, Bool.and_eq_true] at hsafe
  have heq : safe '=' = true := by decide
  rw [List.append_assoc, hopen, hcons, List.append_assoc, List.cons_append, lex_safe _ _ hsafe.1,
    Option.getD_none, lex_allSafe _ _ hsafe.2, List.cons_append, lex_safe _ _ heq,
    Option.getD_some, lex_quote]
  simp [lex, endCommand, words]

/-- The command of a line is the assignment it was made from. -/
theorem assignment?_export (entry : Text × Text) (hname : isName entry.1 = true) :
    assignment? ["export".toList, entry.1 ++ '=' :: entry.2] = some entry := by
  have hstop : '=' ∉ entry.1 := notMem_of_isName hname (by decide)
  have htake : (entry.1 ++ '=' :: entry.2).takeWhile (· ≠ '=') = entry.1 := by
    rw [List.takeWhile_append_of_pos]
    · simp
    · intro c hc
      simp only [decide_eq_true_eq]
      rintro rfl
      exact hstop hc
  have hassigns : "export".toList = "export".toList ∧ '=' ∈ entry.1 ++ '=' :: entry.2 ∧
      isName entry.1 = true := ⟨rfl, by simp, hname⟩
  have hvalue : (entry.1 ++ '=' :: entry.2).drop (entry.1.length + 1) = entry.2 := by
    simp [← List.drop_drop]
  unfold assignment?
  dsimp only
  rw [htake, if_pos hassigns, hvalue]

/-- The shell's reading of what was printed. -/
def evaluated (entries : List (Text × Text)) : Option (List (Text × Text)) :=
  (parse (substitute (markLines exportMark true (entries.flatMap line)))).bind
    (List.mapM assignment?)

/-- The lines of a block are read back as the commands of their entries. -/
theorem parse_lines {entries : List (Text × Text)} (h : ∀ e ∈ entries, isName e.1 = true) :
    parse (markLines exportMark true (entries.flatMap line)) = some (entries.map fun e =>
      ["export".toList, e.1 ++ '=' :: marked exportMark e.2]) := by
  induction entries with
  | nil => rfl
  | cons e entries ih =>
      have hrest := ih fun e' he' => h e' (List.mem_cons_of_mem _ he')
      have hname := h e List.mem_cons_self
      rw [List.flatMap_cons, markLines_line e hname, parse]
      have hfirst := lex_export (e.1, marked exportMark e.2) hname
        (markLines exportMark true (entries.flatMap line))
      rw [hfirst]
      rw [parse] at hrest
      rw [hrest]
      rfl

/-- **Round trip**: the assignments, whatever the values hold, and nothing else; a line end in
a value is followed by the mark of `sed`. -/
theorem evaluated_eq {entries : List (Text × Text)} (h : ∀ e ∈ entries, isName e.1 = true) :
    evaluated entries = some (entries.map fun e => (e.1, marked exportMark e.2)) := by
  rw [evaluated, parse_substitute (parse_lines h), Option.bind_some]
  induction entries with
  | nil => rfl
  | cons e entries ih =>
      have hrest := ih fun e' he' => h e' (List.mem_cons_of_mem _ he')
      have hfirst := assignment?_export (e.1, marked exportMark e.2) (h e List.mem_cons_self)
      simp only [List.map_cons, List.mapM_cons, hfirst, hrest]
      rfl

end Shell
