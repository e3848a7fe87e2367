import Rewind.Proofs.Script.Expression
import Rewind.Proofs.Script.Lines
import Rewind.Proofs.Text.Quoted

/-! What is printed of a script tells what became of it. A printed tree can be read back with anything
behind it that does not go on with a lexeme (`Expr.Proper.print_append_inj`), and so can a report of one
line (`Report.Proper.print_inj`). No report has a line end in it, so that the lines of an output are the
reports (`readable`). -/
namespace Rewind.Script

/-! ## Expressions -/

/-- Numbers and names of a tree are lexemes, and its operators are those of the grammar. -/
inductive Expr.Proper : Expr → Prop where
  | number {x : List Char} (hx : Numeral x) : Proper (.number x)
  | name {x : List Char} (hx : Identifier x) : Proper (.name x)
  | apply {t : Tier} {op : Char} {a b : Expr} (hop : t.Has op) (ha : Proper a) (hb : Proper b) :
      Proper (.apply op a b)

theorem Derives.proper {l : Level} {w : List Char} {e : Expr} {last : Option (List Char)}
    (h : Derives l w e last) : e.Proper := by
  induction h with
  | number hx => exact .number hx
  | name hx => exact .name hx
  | parens hbefore hw hafter ih => exact ih
  | one hw ih => exact ih
  | more hv hbefore hop hafter hw ihv ihw => exact .apply hop ihv ihw

/-- Units that can stand in a lexeme. What is behind a printed tree begins with none of them. -/
def goesOn (c : Char) : Bool := c ≠ ' ' && c ≠ ')'

theorem goesOn_of_not_mem {x : List Char} (hblank : ' ' ∉ x) (hclose : ')' ∉ x) :
    ∀ c ∈ x, goesOn c = true := by
  intro c hc
  have hne : c ≠ ' ' := fun h => hblank (h ▸ hc)
  have hne' : c ≠ ')' := fun h => hclose (h ▸ hc)
  simp [goesOn, hne, hne']

theorem Numeral.goesOn {x : List Char} (hx : Numeral x) : ∀ c ∈ x, goesOn c = true :=
  goesOn_of_not_mem ((separates_of_mem ' ' (by simp)).not_mem_numeral hx)
    ((separates_of_mem ')' (by simp)).not_mem_numeral hx)

theorem Identifier.goesOn {x : List Char} (hx : Identifier x) : ∀ c ∈ x, goesOn c = true :=
  goesOn_of_not_mem ((separates_of_mem ' ' (by simp)).not_mem_identifier hx)
    ((separates_of_mem ')' (by simp)).not_mem_identifier hx)

/-- A text without some unit does not begin as one that begins with it. -/
theorem append_ne_cons {x r t : List Char} {c : Char} (hne : x ≠ []) (hc : c ∉ x) :
    x ++ r ≠ c :: t := by
  obtain ⟨d, ds, rfl⟩ := List.exists_cons_of_ne_nil hne
  intro h
  obtain ⟨rfl, -⟩ := List.cons.inj h
  exact hc List.mem_cons_self

namespace Expr

theorem print_apply_append (op : Char) (a b : Expr) (r : List Char) :
    (apply op a b).print ++ r = '(' :: op :: ' ' :: (a.print ++ ' ' :: (b.print ++ ')' :: r)) := by
  simp [print]

namespace Proper

variable {a b : Expr}

/-- A printed tree tells which tree it is and where it ends. -/
theorem print_append_inj (ha : a.Proper) (hb : b.Proper) {r t : List Char}
    (hr : r.head?.any goesOn = false) (ht : t.head?.any goesOn = false)
    (h : a.print ++ r = b.print ++ t) : a = b ∧ r = t := by
  have hparen : Separates '(' := separates_of_mem '(' (by simp)
  induction ha generalizing b r t with
  | number hx =>
    cases hb with
    | number hy =>
      obtain ⟨rfl, hrest⟩ := Text.append_inj_of_run hx.goesOn hy.goesOn hr ht h
      exact ⟨rfl, hrest⟩
    | name hy => exact absurd h (hx.append_ne hy _ _)
    | apply hop ha' hb' =>
      rw [print_apply_append] at h
      exact absurd h (append_ne_cons (longestOf_numeral.ne_nil _ hx) (hparen.not_mem_numeral hx))
  | name hx =>
    cases hb with
    | number hy => exact absurd h.symm (hy.append_ne hx _ _)
    | name hy =>
      obtain ⟨rfl, hrest⟩ := Text.append_inj_of_run hx.goesOn hy.goesOn hr ht h
      exact ⟨rfl, hrest⟩
    | apply hop ha' hb' =>
      rw [print_apply_append] at h
      exact absurd h
        (append_ne_cons (longestOf_identifier.ne_nil _ hx) (hparen.not_mem_identifier hx))
  | apply hop ha hb iha ihb =>
    rw [print_apply_append] at h
    cases hb with
    | number hy =>
      exact absurd h.symm
        (append_ne_cons (longestOf_numeral.ne_nil _ hy) (hparen.not_mem_numeral hy))
    | name hy =>
      exact absurd h.symm
        (append_ne_cons (longestOf_identifier.ne_nil _ hy) (hparen.not_mem_identifier hy))
    | apply hop' ha' hb' =>
      rw [print_apply_append] at h
      simp only [List.cons.injEq, true_and] at h
      obtain ⟨rfl, hleft⟩ := h
      obtain ⟨rfl, hright⟩ := iha ha' (by rfl) (by rfl) hleft
      obtain ⟨rfl, hrest⟩ := ihb hb' (by rfl) (by rfl) (List.cons.inj hright).2
      exact ⟨rfl, (List.cons.inj hrest).2⟩

theorem print_inj (ha : a.Proper) (hb : b.Proper) (h : a.print = b.print) : a = b :=
  (ha.print_append_inj (r := []) (t := []) hb rfl rfl (by rw [h])).1

/-- A printed tree is all in one line. -/
theorem not_mem_print (ha : a.Proper) : '\n' ∉ a.print := by
  induction ha with
  | number hx => exact separates_newline.not_mem_numeral hx
  | name hx => exact separates_newline.not_mem_identifier hx
  | apply hop ha hb iha ihb => simp [print, hop.ne_newline.symm, iha, ihb]

end Proper

end Expr

/-! ## Statements -/

/-- Statements of the grammar. What is fetched can be any text. -/
inductive Statement.Proper : Statement → Prop where
  | fetch (target : List Char) : Proper (.fetch target)
  | set {name : List Char} {value : Expr} (hname : Identifier name) (hvalue : value.Proper) :
      Proper (.set name value)

namespace Statement

theorem print_fetch (target : List Char) :
    (fetch target).print = '(' :: 'f' :: ("etch ".toList ++ (Text.quoted target ++ [')'])) :=
  List.append_assoc ..

theorem print_set (name : List Char) (value : Expr) : (set name value).print =
    '(' :: 's' :: ("et ".toList ++ (name ++ ' ' :: (value.print ++ [')']))) := by
  show "(set ".toList ++ name ++ ' ' :: value.print ++ [')'] = _
  simp only [List.append_assoc, List.cons_append]
  rfl

theorem exists_print_eq_cons (s : Statement) : ∃ cs, s.print = '(' :: cs := by
  cases s with
  | fetch target => exact ⟨_, print_fetch target⟩
  | set name value => exact ⟨_, print_set name value⟩

theorem print_fetch_ne_set (target name : List Char) (value : Expr) :
    (fetch target).print ≠ (set name value).print := by
  rw [print_fetch, print_set]
  intro h
  have hsecond : 'f' = 's' := (List.cons.inj (List.cons.inj h).2).1
  exact absurd hsecond (by decide)

namespace Proper

variable {s t : Statement}

theorem print_inj (hs : s.Proper) (ht : t.Proper) (h : s.print = t.print) : s = t := by
  cases hs with
  | fetch target =>
    cases ht with
    | fetch target' =>
      rw [print_fetch, print_fetch] at h
      have htargets := List.append_cancel_left (List.cons.inj (List.cons.inj h).2).2
      obtain ⟨rfl, -⟩ := Text.quoted_append_inj htargets
      rfl
    | set hname hvalue => exact absurd h (print_fetch_ne_set _ _ _)
  | set hname hvalue =>
    cases ht with
    | fetch target => exact absurd h.symm (print_fetch_ne_set _ _ _)
    | set hname' hvalue' =>
      rw [print_set, print_set] at h
      have hnames := List.append_cancel_left (List.cons.inj (List.cons.inj h).2).2
      obtain ⟨rfl, hrest⟩ := Text.append_inj_of_run hname.goesOn hname'.goesOn rfl rfl hnames
      obtain ⟨rfl, -⟩ := hvalue.print_append_inj hvalue' rfl rfl (List.cons.inj hrest).2
      rfl

theorem not_mem_print (hs : s.Proper) : '\n' ∉ s.print := by
  cases hs with
  | fetch target =>
    rw [print_fetch]
    simp [Text.not_mem_quoted]
  | set hname hvalue =>
    rw [print_set]
    simp [separates_newline.not_mem_identifier hname, hvalue.not_mem_print]

end Proper

end Statement

/-! ## Reports -/

/-- What is reported of a record: the statement, or the line that is none and where it begins. -/
inductive Report where
  | statement (s : Statement)
  | error (offset : Nat) (line : List Char)
  deriving DecidableEq, Repr

def Record.report (r : Record) : Report :=
  match r.outcome with
  | .parsed s => .statement s
  | .failed line => .error r.start line

namespace Report

def print : Report → List Char
  | statement s => s.print
  | error offset line => s!"error at {offset}: ".toList ++ Text.quoted line

/-- Reports of lines that were read: a statement is one of the grammar. -/
inductive Proper : Report → Prop where
  | statement {s : Statement} (hs : s.Proper) : Proper (.statement s)
  | error (offset : Nat) (line : List Char) : Proper (.error offset line)

theorem print_error (offset : Nat) (line : List Char) : (error offset line).print =
    'e' :: ("rror at ".toList ++ (Nat.toDigits 10 offset ++ ':' :: ' ' :: Text.quoted line)) := by
  show s!"error at {offset}: ".toList ++ Text.quoted line = _
  rw [String.toList_append, String.toList_append]
  show "error at ".toList ++ offset.repr.toList ++ ": ".toList ++ Text.quoted line = _
  rw [Nat.toList_repr, List.append_assoc, List.append_assoc]
  rfl

theorem print_error_ne_statement (offset : Nat) (line : List Char) (s : Statement) :
    (error offset line).print ≠ (statement s).print := by
  intro h
  obtain ⟨cs, hcs⟩ := s.exists_print_eq_cons
  rw [print_error] at h
  have hfirst : 'e' = '(' := (List.cons.inj (h.trans hcs)).1
  exact absurd hfirst (by decide)

namespace Proper

variable {a b : Report}

theorem print_inj (ha : a.Proper) (hb : b.Proper) (h : a.print = b.print) : a = b := by
  cases ha with
  | statement hs =>
    cases hb with
    | statement ht => rw [hs.print_inj ht h]
    | error offset line => exact absurd h.symm (print_error_ne_statement _ _ _)
  | error offset line =>
    cases hb with
    | statement ht => exact absurd h (print_error_ne_statement _ _ _)
    | error offset' line' =>
      have hdigit : ∀ n, ∀ c ∈ Nat.toDigits 10 n, c.isDigit = true := fun n c =>
        Nat.isDigit_of_mem_toDigits (by decide) (by decide)
      rw [print_error, print_error] at h
      obtain ⟨hoffset, hrest⟩ := Text.append_inj_of_run (hdigit offset) (hdigit offset') rfl rfl
        (List.append_cancel_left (List.cons.inj h).2)
      obtain rfl : offset = offset' := by
        rw [← Nat.ofDigitChars_ten_toDigits (n := offset), hoffset, Nat.ofDigitChars_ten_toDigits]
      obtain ⟨rfl, -⟩ := Text.quoted_append_inj (r := []) (t := [])
        (congrArg (· ++ []) (List.cons.inj (List.cons.inj hrest).2).2)
      rfl

/-- A report is all in one line. -/
theorem not_mem_print (ha : a.Proper) : '\n' ∉ a.print := by
  cases ha with
  | statement hs => exact hs.not_mem_print
  | error offset line =>
    have hdigits : '\n' ∉ Nat.toDigits 10 offset := fun hmem =>
      absurd (Nat.isDigit_of_mem_toDigits (by decide) (by decide) hmem) (by decide)
    rw [print_error]
    simp [hdigits, Text.not_mem_quoted]

end Proper

end Report

theorem Record.print_eq (r : Record) : r.print = r.report.print := by
  obtain ⟨start, stop, outcome⟩ := r
  cases outcome <;> rfl

/-! ## The records of a text -/

section

variable {cs rest : List Char} {t : Statement}

theorem proper_readTarget (h : readTarget cs = some (t, rest)) : t.Proper := by
  rw [readTarget] at h
  split at h
  · cases h
    exact .fetch _
  · obtain ⟨-, hsome⟩ := Option.ite_none_left_eq_some.mp h
    cases hsome
    exact .fetch _

theorem proper_readAssignment (h : readAssignment cs = some (t, rest)) : t.Proper := by
  obtain ⟨hne, hsome⟩ := Option.ite_none_left_eq_some.mp h
  obtain ⟨x, -, hvalue⟩ := Option.bind_eq_some_iff.mp hsome
  obtain ⟨⟨e, ds⟩, hexpr, hout⟩ := Option.map_eq_some_iff.mp hvalue
  cases hout
  obtain ⟨w, last, -, hderives, -⟩ := sound_readExpression _ _ _ hexpr
  exact .set (longestOf_identifier.mem _ hne) hderives.proper

theorem proper_readStatement (h : readStatement cs = some (t, rest)) : t.Proper := by
  rcases readStatement_eq_some.mp h with hfetch | ⟨-, hset⟩
  · obtain ⟨x, -, hafter⟩ := Option.bind_eq_some_iff.mp hfetch
    obtain ⟨-, htarget⟩ := Option.ite_none_left_eq_some.mp hafter
    exact proper_readTarget htarget
  · obtain ⟨x, -, hafter⟩ := Option.bind_eq_some_iff.mp hset
    exact proper_readAssignment hafter

theorem proper_readLine (h : readLine cs = some (t, rest)) : t.Proper := by
  obtain ⟨⟨t', ds⟩, hstatement, hout⟩ := Option.bind_eq_some_iff.mp h
  obtain ⟨-, hsome⟩ := Option.ite_none_right_eq_some.mp hout
  cases hsome
  exact proper_readStatement hstatement

end

theorem proper_readRecord (start stop : Nat) (cs : List Char) :
    (Record.mk start stop (readRecord cs).1).report.Proper := by
  rw [readRecord]
  cases hline : readLine cs with
  | some x => exact .statement (proper_readLine hline)
  | none => exact .error _ _

theorem proper_readRecords (n : Nat) (cs : List Char) :
    ∀ r ∈ readRecords n cs, r.report.Proper := by
  induction n, cs using readRecords.induct with
  | case1 n cs line hnil =>
    rw [readRecords_of_nil hnil]
    exact List.forall_mem_nil _
  | case2 n cs start line hne stop ih =>
    rw [readRecords_of_ne_nil rfl hne rfl rfl]
    exact List.forall_mem_cons.mpr ⟨proper_readRecord _ _ _, ih⟩

theorem proper_records (text : List Char) : ∀ r ∈ records text, r.report.Proper := by
  rw [records_eq]
  exact proper_readRecords 0 text

/-! ## Lines of an output -/

/-- Texts of one line each come out again at the line ends behind them. -/
theorem splitOn_flatMap {α : Type} {f : α → List Char} {as : List α} (h : ∀ a ∈ as, '\n' ∉ f a) :
    (as.flatMap fun a => f a ++ ['\n']).splitOn '\n' = as.map f ++ [[]] := by
  induction as with
  | nil => rfl
  | cons a as ih =>
    obtain ⟨ha, has⟩ := List.forall_mem_cons.mp h
    rw [List.flatMap_cons, List.append_assoc, List.singleton_append,
      List.splitOn_append_cons_self_of_not_mem ha, ih has, List.map_cons, List.cons_append]

theorem splitOn_output (text : List Char) :
    (output text).splitOn '\n' = (records text).map Record.print ++ [[]] := by
  refine splitOn_flatMap fun r hr => ?_
  rw [r.print_eq]
  exact (proper_records text r hr).not_mem_print

/-- Lists of proper reports that are printed alike are the same. -/
theorem report_inj {as bs : List Record} (has : ∀ r ∈ as, r.report.Proper)
    (hbs : ∀ r ∈ bs, r.report.Proper) (h : as.map Record.print = bs.map Record.print) :
    as.map Record.report = bs.map Record.report := by
  induction as generalizing bs with
  | nil =>
    obtain rfl := List.map_eq_nil_iff.mp h.symm
    rfl
  | cons a as ih =>
    cases bs with
    | nil => cases h
    | cons b bs =>
      obtain ⟨ha, has⟩ := List.forall_mem_cons.mp has
      obtain ⟨hb, hbs⟩ := List.forall_mem_cons.mp hbs
      obtain ⟨hfirst, hrest⟩ := List.cons.inj h
      rw [a.print_eq, b.print_eq] at hfirst
      rw [List.map_cons, List.map_cons, ha.print_inj hb hfirst, ih has hbs hrest]

/-- Trees that are read of a text, from some place that a scanner gets to. -/
def Expr.IsRead (e : Expr) : Prop :=
  ∃ text options ms t, expression (Course.reached text options ms) = (some e, t)

theorem Expr.IsRead.proper {e : Expr} (h : e.IsRead) : e.Proper := by
  obtain ⟨text, options, ms, t, hread⟩ := h
  obtain ⟨-, w, last, -, -, hderives, -⟩ :=
    (Course.readsExpressions_reached text options ms).sound e t hread
  exact hderives.proper

/-- What is printed can be read back. -/
structure Readable : Prop where
  /-- Each record is a line of its own, whatever the text has in it. -/
  lines : ∀ text, (output text).splitOn '\n' = (records text).map Record.print ++ [[]]
  /-- A tree that is read is printed like no other one. -/
  trees : ∀ a b : Expr, a.IsRead → b.IsRead → a.print = b.print → a = b
  /-- Texts with the same output have the same reports. -/
  reports : ∀ text text', output text = output text' →
    (records text).map Record.report = (records text').map Record.report

theorem readable : Readable where
  lines := splitOn_output
  trees a b ha hb := ha.proper.print_inj hb.proper
  reports text text' h := by
    have hlines := congrArg (List.splitOn '\n') h
    rw [splitOn_output, splitOn_output] at hlines
    exact report_inj (proper_records text) (proper_records text') (List.append_cancel_right hlines)

/-- Two scripts with one output. They differ in their blanks, quotes and parentheses, and in where their
statements are, and none of it is reported. The offset of the line that fails is the same in both. -/
theorem readable_blanks :
    output "fetch a  \nset x  = 1+2*y\n(".toList =
        "(fetch \"a\")\n(set x (+ 1 (* 2 y)))\nerror at 25: \"(\"\n".toList ∧
      output "fetch \"a\"\n\tset x=1+(2*y)\n(".toList =
        "(fetch \"a\")\n(set x (+ 1 (* 2 y)))\nerror at 25: \"(\"\n".toList ∧
      records "fetch a  \nset x  = 1+2*y\n(".toList ≠
        records "fetch \"a\"\n\tset x=1+(2*y)\n(".toList ∧
      (records "fetch a  \nset x  = 1+2*y\n(".toList).map Record.report =
        [.statement (.fetch ['a']),
          .statement (.set ['x']
            (.apply '+' (.number ['1']) (.apply '*' (.number ['2']) (.name ['y'])))),
          .error 25 ['(']] ∧
      (records "fetch \"a\"\n\tset x=1+(2*y)\n(".toList).map Record.report =
        [.statement (.fetch ['a']),
          .statement (.set ['x']
            (.apply '+' (.number ['1']) (.apply '*' (.number ['2']) (.name ['y'])))),
          .error 25 ['(']] := by
  -- The records of both are found in one evaluation: most of it is spent on the class of words.
  obtain ⟨hfirst, hsecond⟩ :
      records "fetch a  \nset x  = 1+2*y\n(".toList =
        [⟨0, 9, .parsed (.fetch ['a'])⟩,
          ⟨10, 24, .parsed (.set ['x']
            (.apply '+' (.number ['1']) (.apply '*' (.number ['2']) (.name ['y']))))⟩,
          ⟨25, 26, .failed ['(']⟩] ∧
      records "fetch \"a\"\n\tset x=1+(2*y)\n(".toList =
        [⟨0, 9, .parsed (.fetch ['a'])⟩,
          ⟨11, 24, .parsed (.set ['x']
            (.apply '+' (.number ['1']) (.apply '*' (.number ['2']) (.name ['y']))))⟩,
          ⟨25, 26, .failed ['(']⟩] := by
    decide +kernel
  have hprinted : output "fetch a  \nset x  = 1+2*y\n(".toList =
      "(fetch \"a\")\n(set x (+ 1 (* 2 y)))\nerror at 25: \"(\"\n".toList := by
    rw [output, hfirst]
    decide +kernel
  have hprinted' : output "fetch \"a\"\n\tset x=1+(2*y)\n(".toList =
      "(fetch \"a\")\n(set x (+ 1 (* 2 y)))\nerror at 25: \"(\"\n".toList := by
    rw [output, hsecond]
    decide +kernel
  have hreports := readable.reports _ _ (hprinted.trans hprinted'.symm)
  refine ⟨hprinted, hprinted', ?_, by rw [hfirst]; rfl, ?_⟩
  · rw [hfirst, hsecond]
    decide
  · rw [← hreports, hfirst]
    rfl

end Rewind.Script
