import Mathlib.Algebra.BigOperators.Fin
import TableCatalog.Failure

/-!
# How often a cause is shown

The text of a failure should show each error of its chain of causes once. It does so for one cause.
Of a longer chain every report shows its own causes once more, and the chain goes on with them
behind it, so that each error is shown twice as often as the one before. The heading is repeated
likewise, and the text of a chain grows exponentially with the length of the chain.
-/

namespace TableCatalog

namespace Text

/-- How many times a word, which is not empty, stands in a text. -/
def occurrences (word : List Char) : List Char → Nat
  | [] => 0
  | c :: cs => (if word <+: c :: cs then 1 else 0) + occurrences word cs

variable {word front rest cs : List Char} {c : Char}

/-- A word without a certain character ends before it. -/
theorem prefix_append_cons_iff (absent : c ∉ word) :
    word <+: front ++ c :: rest ↔ word <+: front := by
  constructor
  · intro begins
    have whole : front ++ [c] <+: front ++ c :: rest := ⟨rest, by simp⟩
    rcases List.prefix_or_prefix_of_prefix begins whole with within | beyond
    · rcases List.prefix_concat_iff.mp within with same | within
      · exact absurd (by simp [same]) absent
      · exact within
    · exact absurd (beyond.mem (by simp)) absent
  · exact fun begins => begins.trans (List.prefix_append front _)

/-- No occurrence of a word goes over a character that the word does not have. -/
theorem occurrences_append_cons (nonempty : word ≠ []) (absent : c ∉ word)
    (front rest : List Char) :
    occurrences word (front ++ c :: rest) = occurrences word front + occurrences word rest := by
  induction front with
  | nil =>
    have elsewhere : ¬ word <+: c :: rest := by
      intro begins
      have none : word <+: [] := (prefix_append_cons_iff absent).mp begins
      exact nonempty (List.prefix_nil.mp none)
    simp [occurrences, elsewhere]
  | cons d front ih =>
    have same : word <+: (d :: front) ++ c :: rest ↔ word <+: d :: front :=
      prefix_append_cons_iff absent
    rw [List.cons_append] at same ⊢
    simp only [occurrences, same, ih, Nat.add_assoc]

theorem occurrences_cons_of_ne (other : word.head? ≠ some c) (nonempty : word ≠ [])
    (cs : List Char) : occurrences word (c :: cs) = occurrences word cs := by
  have elsewhere : ¬ word <+: c :: cs := by
    cases word with
    | nil => exact absurd rfl nonempty
    | cons d word =>
      intro begins
      exact other (congrArg some (List.cons_prefix_cons.mp begins).1)
  rw [occurrences, if_neg elsewhere, Nat.zero_add]

theorem occurrences_concat_of_ne (other : word.getLast? ≠ some c) (nonempty : word ≠ [])
    (cs : List Char) : occurrences word (cs ++ [c]) = occurrences word cs := by
  have shorter (cs : List Char) : word <+: cs ++ [c] ↔ word <+: cs := by
    refine List.prefix_concat_iff.trans (or_iff_right ?_)
    rintro rfl
    exact other List.getLast?_concat
  induction cs with
  | nil =>
    have elsewhere : ¬ word <+: [c] := fun begins =>
      nonempty (List.prefix_nil.mp ((shorter []).mp begins))
    simp [occurrences, elsewhere]
  | cons d cs ih =>
    have same := shorter (d :: cs)
    rw [List.cons_append] at same ⊢
    simp only [occurrences, same, ih]

theorem occurrences_eq_zero_of_not_mem (nonempty : word ≠ []) (absent : word.head nonempty ∉ cs) :
    occurrences word cs = 0 := by
  induction cs with
  | nil => rfl
  | cons c cs ih =>
    rw [List.mem_cons, not_or] at absent
    have other : word.head? ≠ some c := by
      rw [List.head?_eq_some_head nonempty]
      exact fun same => absent.1 (Option.some.inj same)
    rw [occurrences_cons_of_ne other nonempty, ih absent.2]

/-! ## Counting line by line -/

/-- A quantity of texts that is the sum over their lines. -/
structure CountsByLine (count : List Char → Nat) : Prop where
  nil : count [] = 0
  line : ∀ front rest, count (front ++ '\n' :: rest) = count (front ++ ['\n']) + count rest

/-- A text of whole lines. -/
def EndsLine (cs : List Char) : Prop := cs = [] ∨ ∃ front, cs = front ++ ['\n']

theorem endsLine_nil : EndsLine [] := .inl rfl

theorem EndsLine.newline (ends : EndsLine rest) (front : List Char) :
    EndsLine (front ++ '\n' :: rest) := by
  rcases ends with rfl | ⟨before, rfl⟩
  · exact .inr ⟨front, rfl⟩
  · exact .inr ⟨front ++ '\n' :: before, by simp⟩

theorem EndsLine.append (ends : EndsLine cs) (more : EndsLine rest) : EndsLine (cs ++ rest) := by
  rcases ends with rfl | ⟨front, rfl⟩
  · exact more
  · rw [List.append_assoc]
    exact more.newline front

theorem CountsByLine.append {count : List Char → Nat} (counts : CountsByLine count)
    (ends : EndsLine cs) (rest : List Char) : count (cs ++ rest) = count cs + count rest := by
  rcases ends with rfl | ⟨front, rfl⟩
  · rw [List.nil_append, counts.nil, Nat.zero_add]
  · rw [List.append_assoc, List.singleton_append, counts.line]

theorem countsByLine_length : CountsByLine List.length :=
  ⟨rfl, fun front rest => by
    simp only [List.length_append, List.length_cons, List.length_nil]
    omega⟩

theorem countsByLine_occurrences (nonempty : word ≠ []) (absent : '\n' ∉ word) :
    CountsByLine (occurrences word) := by
  refine ⟨rfl, fun front rest => ?_⟩
  have none : occurrences word [] = 0 := rfl
  rw [occurrences_append_cons nonempty absent, occurrences_append_cons nonempty absent, none,
    Nat.add_zero]

end Text

open Text

/-! ## The text of a chain -/

namespace Report

/-- The lines of the details. -/
def detailLines (r : Report) : List Char :=
  (if r.details.isEmpty then ""
    else "Stack:\n" ++ String.join (r.details.map fun d => "  " ++ d ++ "\n")).toList

theorem toList_head (r : Report) :
    r.head.toList = r.kind.toList ++ [' '] ++ '(' :: (Nat.toDigits 10 r.code.toNat ++
      ')' :: ':' :: ' ' :: (r.message.toList ++ '\n' :: r.detailLines)) := by
  simp only [head, String.toList_append, Nat.toString_eq_ofList_toDigits, String.toList_ofList,
    detailLines, List.append_assoc]
  rfl

theorem endsLine_detailLines (r : Report) : EndsLine r.detailLines := by
  have details (ds : List String) : EndsLine (ds.flatMap fun d => ("  " ++ d ++ "\n").toList) := by
    induction ds with
    | nil => exact endsLine_nil
    | cons d ds ih =>
      rw [List.flatMap_cons, String.toList_append]
      exact (endsLine_nil.newline _).append ih
  unfold detailLines
  split
  · exact endsLine_nil
  · rw [String.toList_append, String.toList_join, List.flatMap_map]
    exact (endsLine_nil.newline "Stack:".toList).append (details r.details)

theorem endsLine_head (r : Report) : EndsLine r.head.toList := by
  have ends := r.endsLine_detailLines.newline (r.kind.toList ++ [' '] ++ '(' ::
    (Nat.toDigits 10 r.code.toNat ++ ')' :: ':' :: ' ' :: r.message.toList))
  rw [toList_head]
  simpa using ends

end Report

namespace Origin

/-- The words over the causes of a failure. -/
def heading : String := "Caused by:"

/-- What is shown of each error of a chain by itself, without its own causes. -/
def entries : Origin → List String
  | .unknown => []
  | .plain text => ["\t" ++ text ++ "\n"]
  | .report r origin => ("\t" ++ r.head ++ "\n") :: origin.entries

theorem suffix_unknown : suffix .unknown = "" := rfl

theorem lines_unknown : lines .unknown = "" := rfl

theorem lines_plain (text : String) : lines (.plain text) = "\t" ++ text ++ "\n" := rfl

theorem lines_report (r : Report) (origin : Origin) :
    lines (.report r origin) = "\t" ++ (r.head ++ origin.suffix) ++ "\n" ++ origin.lines := rfl

theorem suffix_eq {origin : Origin} (known : origin.isKnown) :
    origin.suffix = heading ++ "\n" ++ origin.lines := by
  cases origin with
  | unknown => cases known
  | plain text =>
    show "Caused by:\n" ++ "\t" ++ text ++ "\n" = _
    simp only [lines_plain, String.append_assoc]
    rfl
  | report r origin =>
    show "Caused by:\n" ++ "\t" ++ (r.head ++ origin.suffix) ++ "\n" ++ origin.lines = _
    simp only [lines_report, String.append_assoc]
    rfl

theorem endsLine_lines (origin : Origin) : EndsLine origin.lines.toList := by
  induction origin with
  | unknown => exact endsLine_nil
  | plain text =>
    rw [lines_plain, String.toList_append]
    exact endsLine_nil.newline _
  | report r origin ih =>
    rw [lines_report, String.toList_append, String.toList_append]
    exact (endsLine_nil.newline _).append ih

theorem endsLine_suffix (origin : Origin) : EndsLine origin.suffix.toList := by
  by_cases known : origin.isKnown
  · rw [suffix_eq known, String.toList_append]
    exact (endsLine_nil.newline heading.toList).append origin.endsLine_lines
  · cases origin with
    | unknown => exact endsLine_nil
    | plain text => exact absurd rfl known
    | report r origin => exact absurd rfl known

theorem entries_eq_nil_iff {origin : Origin} : origin.entries = [] ↔ ¬ origin.isKnown := by
  cases origin <;> simp [entries, isKnown]

/-! ## Counting in the text of a chain -/

/-- What is counted in texts of which each one stands twice as often as the one before. -/
def countDoubling (count : List Char → Nat) (texts : List String) : Nat :=
  ∑ i : Fin texts.length, 2 ^ (i : Nat) * count texts[i].toList

theorem countDoubling_cons (count : List Char → Nat) (text : String) (texts : List String) :
    countDoubling count (text :: texts) = count text.toList + 2 * countDoubling count texts := by
  unfold countDoubling
  refine (Fin.sum_univ_succ _).trans ?_
  rw [Finset.mul_sum]
  congr 1
  · simp
  · refine Finset.sum_congr rfl fun i _ => ?_
    rw [← mul_assoc, ← pow_succ']
    rfl

section

variable {count : List Char → Nat} (counts : CountsByLine count)
include counts

theorem count_suffix_of_isKnown {origin : Origin} (known : origin.isKnown) :
    count origin.suffix.toList =
      count (heading ++ "\n").toList + count origin.lines.toList := by
  rw [suffix_eq known, String.toList_append]
  exact counts.append (endsLine_nil.newline heading.toList) _

/-- A report shows its own causes, and the chain goes on with them. -/
theorem count_lines_report (r : Report) (origin : Origin) :
    count (lines (.report r origin)).toList =
      count ("\t" ++ r.head ++ "\n").toList + count origin.suffix.toList +
        count origin.lines.toList := by
  have head : EndsLine ("\t".toList ++ r.head.toList) := by
    rcases r.endsLine_head with none | ⟨front, same⟩
    · rw [Report.toList_head] at none
      simp at none
    · rw [same, ← List.append_assoc]
      exact endsLine_nil.newline _
  have newline : EndsLine "\n".toList := endsLine_nil.newline []
  simp only [lines_report, String.toList_append]
  rw [← List.append_assoc, List.append_assoc, List.append_assoc, counts.append head,
    counts.append origin.endsLine_suffix, counts.append newline, counts.append head]
  omega

/-- Each error of a chain stands twice as often as the one before, and the words over them as often
as the last one. -/
theorem count_suffix {origin : Origin} {n : Nat} (length : origin.entries.length = n + 1) :
    count origin.suffix.toList =
      2 ^ n * count (heading ++ "\n").toList + countDoubling count origin.entries := by
  induction origin generalizing n with
  | unknown => cases length
  | plain text =>
    obtain rfl : n = 0 := by simpa [entries] using length.symm
    rw [count_suffix_of_isKnown counts rfl, entries, countDoubling_cons]
    simp [countDoubling, lines_plain]
  | report r origin ih =>
    rw [count_suffix_of_isKnown counts rfl, count_lines_report counts, entries, countDoubling_cons]
    cases n with
    | zero =>
      cases origin with
      | unknown => simp [countDoubling, entries, suffix_unknown, lines_unknown, counts.nil]
      | plain text => cases length
      | report r' origin => cases length
    | succ n =>
      have length : origin.entries.length = n + 1 := Nat.succ.inj length
      have known : origin.isKnown := by
        by_contra unknown
        rw [entries_eq_nil_iff.mpr unknown] at length
        cases length
      have again := count_suffix_of_isKnown counts known
      have shown := ih length
      rw [pow_succ', mul_assoc]
      omega

end

end Origin

/-! ## The words over the causes -/

/-- The words that a report has from others. -/
def Report.words (r : Report) : List String := r.kind :: r.message :: r.details

/-- The words that a chain of causes has from others. -/
def Origin.words : Origin → List String
  | .unknown => []
  | .plain text => [text]
  | .report r origin => r.words ++ origin.words

/-- A text does not have the words over the causes in it. -/
def Unheaded (cs : List Char) : Prop := occurrences Origin.heading.toList cs = 0

instance (cs : List Char) : Decidable (Unheaded cs) := inferInstanceAs (Decidable (_ = _))

namespace Unheaded

variable {c : Char} {front rest cs : List Char}

theorem cons (unheaded : Unheaded cs) (other : Origin.heading.toList.head? ≠ some c) :
    Unheaded (c :: cs) :=
  (occurrences_cons_of_ne other (by decide) cs).trans unheaded

theorem concat (unheaded : Unheaded cs) (other : Origin.heading.toList.getLast? ≠ some c) :
    Unheaded (cs ++ [c]) :=
  (occurrences_concat_of_ne other (by decide) cs).trans unheaded

theorem append_cons (before : Unheaded front) (behind : Unheaded rest)
    (absent : c ∉ Origin.heading.toList) : Unheaded (front ++ c :: rest) := by
  unfold Unheaded at *
  rw [occurrences_append_cons (by decide) absent, before, behind]

theorem toDigits (n : Nat) : Unheaded (Nat.toDigits 10 n) := by
  refine occurrences_eq_zero_of_not_mem (by decide) fun mem => ?_
  exact absurd (Nat.isDigit_of_mem_toDigits (by decide) (by decide) mem) (by decide)

theorem detailLines {r : Report} (details : ∀ s ∈ r.details, Unheaded s.toList) :
    Unheaded r.detailLines := by
  have lines (ds : List String) (each : ∀ s ∈ ds, Unheaded s.toList) :
      Unheaded (ds.flatMap fun d => ("  " ++ d ++ "\n").toList) := by
    induction ds with
    | nil => rfl
    | cons d ds ih =>
      obtain ⟨first, others⟩ := List.forall_mem_cons.mp each
      have line := ((first.cons (c := ' ') (by decide)).cons (c := ' ') (by decide)).append_cons
        (ih others) (c := '\n') (by decide)
      simpa [String.toList_append] using line
  unfold Report.detailLines
  split
  · rfl
  · have heading : Unheaded "Stack:".toList := by decide
    rw [String.toList_append, String.toList_join, List.flatMap_map]
    exact heading.append_cons (lines r.details details) (c := '\n') (by decide)

theorem head {r : Report} (words : ∀ s ∈ r.words, Unheaded s.toList) : Unheaded r.head.toList := by
  rw [Report.words, List.forall_mem_cons, List.forall_mem_cons] at words
  obtain ⟨kind, message, details⟩ := words
  rw [Report.toList_head]
  refine append_cons (kind.concat (by decide)) ?_ (by decide)
  refine append_cons (toDigits _) ?_ (by decide)
  refine cons (cons ?_ (by decide)) (by decide)
  exact message.append_cons (detailLines details) (by decide)

theorem entry {text : String} (unheaded : Unheaded text.toList) :
    Unheaded ("\t" ++ text ++ "\n").toList := by
  rw [String.toList_append, String.toList_append]
  exact append_cons (unheaded.cons (c := '\t') (by decide)) rfl (c := '\n') (by decide)

theorem entries {origin : Origin} (words : ∀ s ∈ origin.words, Unheaded s.toList) :
    ∀ e ∈ origin.entries, Unheaded e.toList := by
  induction origin with
  | unknown => exact fun e mem => by cases mem
  | plain text =>
    intro e mem
    obtain rfl := List.mem_singleton.mp mem
    exact entry (words text (List.mem_singleton_self text))
  | report r origin ih =>
    rw [Origin.words, List.forall_mem_append] at words
    exact List.forall_mem_cons.mpr ⟨entry (head words.1), ih words.2⟩

end Unheaded

/-! ## The text of a failure -/

namespace Failure

open Origin (heading countDoubling)

/-- What is counted in the text of a failure. -/
theorem count_text {count : List Char → Nat} (counts : CountsByLine count) (f : Failure) :
    count f.text.toList = count f.head.toList + count f.origin.suffix.toList := by
  rw [text, String.toList_append]
  exact counts.append f.endsLine_head _

/-- **How often each cause is shown.** In the text of a failure with `n + 1` causes every cause
stands twice as often as the one before, the first one once, and the words over them stand as often
as the last one. So a text with more than one cause repeats itself, and it grows exponentially with
the number of causes. -/
theorem causes_are_shown_in_powers_of_two (f : Failure) {n : Nat}
    (chain : f.origin.entries.length = n + 1)
    (words : ∀ s ∈ f.words ++ f.origin.words, Unheaded s.toList) :
    occurrences heading.toList f.text.toList = 2 ^ n ∧
    (∀ word, word ≠ [] → '\n' ∉ word → occurrences word f.text.toList =
      occurrences word f.head.toList + 2 ^ n * occurrences word heading.toList +
        ∑ i : Fin f.origin.entries.length,
          2 ^ (i : Nat) * occurrences word f.origin.entries[i].toList) ∧
    f.text.length = f.head.length + 2 ^ n * (heading.length + 1) +
      ∑ i : Fin f.origin.entries.length, 2 ^ (i : Nat) * f.origin.entries[i].length := by
  have occurs (word : List Char) (nonempty : word ≠ []) (absent : '\n' ∉ word) :
      occurrences word f.text.toList = occurrences word f.head.toList +
        2 ^ n * occurrences word heading.toList +
          countDoubling (occurrences word) f.origin.entries := by
    have counts := countsByLine_occurrences nonempty absent
    have line : occurrences word (heading ++ "\n").toList = occurrences word heading.toList := by
      rw [String.toList_append]
      exact occurrences_append_cons nonempty absent heading.toList []
    rw [count_text counts, Origin.count_suffix counts chain, line, Nat.add_assoc]
  refine ⟨?_, occurs, ?_⟩
  · rw [List.forall_mem_append] at words
    have own : occurrences heading.toList heading.toList = 1 := by decide
    have none : countDoubling (occurrences heading.toList) f.origin.entries = 0 := by
      refine Finset.sum_eq_zero fun i _ => ?_
      have absent := Unheaded.entries words.2 _ (List.getElem_mem i.isLt)
      exact mul_eq_zero_of_right _ absent
    rw [occurs _ (by decide) (by decide), Unheaded.head words.1, own, none]
    omega
  · have counted := count_text countsByLine_length f
    rw [Origin.count_suffix countsByLine_length chain, ← Nat.add_assoc] at counted
    exact counted

namespace Sample

/-- A failure with two causes. -/
def denied : Failure where
  message := "no data token"
  kind := "CredentialError"
  code := 412
  origin := .report { message := "denied", kind := "Forbidden", code := 403 } (.plain "key expired")

end Sample

theorem powers_of_two_of_denied :
    Sample.denied.origin.entries.length = 2 ∧
      (∀ s ∈ Sample.denied.words ++ Sample.denied.origin.words, Unheaded s.toList) ∧
      occurrences heading.toList Sample.denied.text.toList = 2 := by
  have words : ∀ s ∈ Sample.denied.words ++ Sample.denied.origin.words, Unheaded s.toList := by
    decide
  exact ⟨rfl, words, (causes_are_shown_in_powers_of_two Sample.denied rfl words).1⟩

/-- It is not so that the words over the causes stand once in every text. -/
theorem causes_are_not_shown_once :
    ¬ ∀ f : Failure, f.origin.isKnown →
      (∀ s ∈ f.words ++ f.origin.words, '\n' ∉ s.toList ∧ Unheaded s.toList) →
        occurrences heading.toList f.text.toList = 1 := by
  intro once
  have twice : occurrences heading.toList Sample.denied.text.toList = 2 := by decide +kernel
  have told := once Sample.denied rfl (by decide)
  rw [twice] at told
  cases told

end Failure

end TableCatalog
