import Mathlib

/-!
# JSON texts

The grammar of JSON, as derivations of texts from values, and a scanner that knows no more of it
than strings, brackets and commas. On a text that is derived the scanner ends where it began, and on
the way it never leaves the brackets that it began in. So a text on which it ends elsewhere is no
JSON document.

That is what tells a list of objects that is cut off from one that is whole: if the cut falls within
an object, the brackets that follow close others than they should, and if it falls behind a comma, a
bracket follows where an element should. If it falls between an object and the comma, nothing is to
be seen of it.
-/

/-- A JSON value. Numbers and strings are what stands in the text. -/
inductive JsonValue
  | null
  | bool (b : Bool)
  | num (literal : List Char)
  | str (text : List Char)
  | arr (elements : List JsonValue)
  | obj (members : List (List Char × JsonValue))

namespace JsonText

/-! ## The grammar -/

/-- Insignificant whitespace. -/
def Space (w : List Char) : Prop := ∀ c ∈ w, c = ' ' ∨ c = '\t' ∨ c = '\n' ∨ c = '\r'

/-- The digits of an escaped code point. -/
def IsHex (c : Char) : Prop := c.isDigit ∨ 'a' ≤ c ∧ c ≤ 'f' ∨ 'A' ≤ c ∧ c ≤ 'F'

/-- What may stand between quotation marks. -/
inductive Chars : List Char → Prop
  | nil : Chars []
  | unescaped {c : Char} {s : List Char} (hspace : ' ' ≤ c) (hquote : c ≠ '"')
    (hbackslash : c ≠ '\\') (h : Chars s) : Chars (c :: s)
  | escaped {c : Char} {s : List Char} (hc : c ∈ ['"', '\\', '/', 'b', 'f', 'n', 'r', 't'])
    (h : Chars s) : Chars ('\\' :: c :: s)
  | unicode {x y z u : Char} {s : List Char} (hx : IsHex x) (hy : IsHex y) (hz : IsHex z)
    (hu : IsHex u) (h : Chars s) : Chars ('\\' :: 'u' :: x :: y :: z :: u :: s)

/-- One digit or more. -/
def Digits (s : List Char) : Prop := s ≠ [] ∧ ∀ c ∈ s, c.isDigit

/-- The integer part of a number has no leading zero. -/
def IntPart (s : List Char) : Prop := s = ['0'] ∨ Digits s ∧ s.head? ≠ some '0'

/-- A number. -/
def Number (s : List Char) : Prop :=
  ∃ sign int frac exp, s = sign ++ (int ++ (frac ++ exp)) ∧ (sign = [] ∨ sign = ['-']) ∧
    IntPart int ∧ (frac = [] ∨ ∃ ds, Digits ds ∧ frac = '.' :: ds) ∧
    (exp = [] ∨ ∃ e sgn ds, (e = 'e' ∨ e = 'E') ∧ (sgn = [] ∨ sgn = ['+'] ∨ sgn = ['-']) ∧
      Digits ds ∧ exp = e :: (sgn ++ ds))

/-- What is derived: a value, or elements or members with commas between them. -/
inductive Phrase
  | value (v : JsonValue)
  | elements (vs : List JsonValue)
  | members (ms : List (List Char × JsonValue))

/-- The texts of a phrase. -/
inductive Derives : Phrase → List Char → Prop
  | litNull : Derives (.value .null) ['n', 'u', 'l', 'l']
  | litTrue : Derives (.value (.bool true)) ['t', 'r', 'u', 'e']
  | litFalse : Derives (.value (.bool false)) ['f', 'a', 'l', 's', 'e']
  | num {s : List Char} (h : Number s) : Derives (.value (.num s)) s
  | str {s : List Char} (h : Chars s) : Derives (.value (.str s)) ('"' :: (s ++ ['"']))
  | arrNil {w : List Char} (hw : Space w) : Derives (.value (.arr [])) ('[' :: (w ++ [']']))
  | arr {vs : List JsonValue} {s : List Char} (h : Derives (.elements vs) s) :
    Derives (.value (.arr vs)) ('[' :: (s ++ [']']))
  | objNil {w : List Char} (hw : Space w) : Derives (.value (.obj [])) ('{' :: (w ++ ['}']))
  | obj {ms : List (List Char × JsonValue)} {s : List Char} (h : Derives (.members ms) s) :
    Derives (.value (.obj ms)) ('{' :: (s ++ ['}']))
  | element {v : JsonValue} {w s w' : List Char} (hw : Space w) (h : Derives (.value v) s)
    (hw' : Space w') : Derives (.elements [v]) (w ++ (s ++ w'))
  | elements {v : JsonValue} {vs : List JsonValue} {s t : List Char}
    (h : Derives (.elements [v]) s) (ht : Derives (.elements vs) t) :
    Derives (.elements (v :: vs)) (s ++ ',' :: t)
  | member {k : List Char} {v : JsonValue} {w w' s : List Char} (hw : Space w) (hk : Chars k)
    (hw' : Space w') (h : Derives (.elements [v]) s) :
    Derives (.members [(k, v)]) (w ++ '"' :: (k ++ '"' :: (w' ++ ':' :: s)))
  | members {m : List Char × JsonValue} {ms : List (List Char × JsonValue)} {s t : List Char}
    (h : Derives (.members [m]) s) (ht : Derives (.members ms) t) :
    Derives (.members (m :: ms)) (s ++ ',' :: t)

/-- A JSON document is a value with whitespace around it. -/
def Document (v : JsonValue) (s : List Char) : Prop := Derives (.elements [v]) s

/-! ## The scanner -/

/-- Where the scanner is, and in how many brackets. -/
inductive Scan
  /-- No JSON document begins so. -/
  | dead
  /-- Outside of strings, and whether behind a comma. -/
  | out (depth : ℕ) (comma : Bool)
  | str (depth : ℕ)
  /-- Behind a backslash. -/
  | esc (depth : ℕ)
  deriving DecidableEq, Repr

/-- A closing bracket. -/
def Scan.close : ℕ → Bool → Scan
  | depth + 1, false => .out depth false
  | _, _ => .dead

/-- One character. -/
def Scan.step : Scan → Char → Scan
  | .dead, _ => .dead
  | .out depth comma, c =>
    if c = ' ' ∨ c = '\t' ∨ c = '\n' ∨ c = '\r' then .out depth comma
    else if c = '"' then .str depth
    else if c = '[' ∨ c = '{' then .out (depth + 1) false
    else if c = ']' ∨ c = '}' then .close depth comma
    else if c = ',' then .out depth true
    else .out depth false
  | .str depth, c => if c = '"' then .out depth false else if c = '\\' then .esc depth
    else .str depth
  | .esc depth, _ => .str depth

/-- A text. -/
def scan (st : Scan) (s : List Char) : Scan := s.foldl Scan.step st

@[simp] theorem scan_nil (st : Scan) : scan st [] = st := rfl

@[simp] theorem scan_cons (st : Scan) (c : Char) (s : List Char) :
    scan st (c :: s) = scan (st.step c) s := rfl

@[simp] theorem scan_append (st : Scan) (s t : List Char) :
    scan st (s ++ t) = scan (scan st s) t := List.foldl_append

/-- The scanner is within so many brackets. -/
def Scan.Over (d : ℕ) : Scan → Prop
  | .dead => False
  | .out e _ | .str e | .esc e => d ≤ e

theorem Scan.Over.mono {d d' : ℕ} {st : Scan} (h : st.Over d) (hle : d' ≤ d) : st.Over d' := by
  cases st with
  | dead => exact h
  | out e _ => exact hle.trans h
  | str e => exact hle.trans h
  | esc e => exact hle.trans h

/-- On a text the scanner goes from one state to another, and stays within so many brackets. -/
structure Runs (d : ℕ) (st : Scan) (s : List Char) (st' : Scan) : Prop where
  ends : scan st s = st'
  stays : ∀ p, p <+: s → (scan st p).Over d

section Runs

variable {d d' : ℕ} {st st' st'' : Scan} {s t : List Char} {c : Char} {comma : Bool}

theorem Runs.nil (h : st.Over d) : Runs d st [] st where
  ends := rfl
  stays p hp := by rwa [List.prefix_nil.mp hp]

theorem Runs.append (h : Runs d st s st') (h' : Runs d st' t st'') : Runs d st (s ++ t) st'' where
  ends := by rw [scan_append, h.ends, h'.ends]
  stays p hp := by
    -- a front of both ends in the first, or goes into the second
    rcases List.prefix_or_prefix_of_prefix hp (List.prefix_append s t) with hps | ⟨q, rfl⟩
    · exact h.stays p hps
    · rw [scan_append, h.ends]
      exact h'.stays q ((List.prefix_append_right_inj s).mp hp)

theorem Runs.cons (h : st.Over d) (hs : Runs d (st.step c) s st') : Runs d st (c :: s) st' where
  ends := hs.ends
  stays p hp := by
    rcases List.prefix_cons_iff.mp hp with rfl | ⟨q, rfl, hq⟩
    · exact h
    · exact hs.stays q hq

theorem Runs.mono (h : Runs d st s st') (hle : d' ≤ d) : Runs d' st s st' :=
  ⟨h.ends, fun p hp ↦ (h.stays p hp).mono hle⟩

/-- A character that the scanner does not look at. -/
def Plain (c : Char) : Prop := c ∉ [' ', '\t', '\n', '\r', '"', '[', '{', ']', '}', ',']

theorem step_plain (hc : Plain c) : (Scan.out d comma).step c = .out d false := by
  simp only [Plain, List.mem_cons, List.not_mem_nil, or_false, not_or] at hc
  simp [Scan.step, hc]

theorem Runs.plain (hs : ∀ c ∈ s, Plain c) : Runs d (.out d false) s (.out d false) := by
  induction s with
  | nil => exact .nil le_rfl
  | cons c s ih =>
    obtain ⟨hc, hs⟩ := List.forall_mem_cons.mp hs
    refine .cons le_rfl ?_
    rw [step_plain hc]
    exact ih hs

/-- Behind a comma, there has to be something. -/
theorem Runs.plain_of_ne_nil (hne : s ≠ []) (hs : ∀ c ∈ s, Plain c) :
    Runs d (.out d comma) s (.out d false) := by
  cases s with
  | nil => exact absurd rfl hne
  | cons c s =>
    obtain ⟨hc, hs⟩ := List.forall_mem_cons.mp hs
    refine .cons le_rfl ?_
    rw [step_plain hc]
    exact .plain hs

theorem Runs.space (hw : Space s) : Runs d (.out d comma) s (.out d comma) := by
  induction s with
  | nil => exact .nil le_rfl
  | cons c s ih =>
    obtain ⟨hc, hs⟩ := List.forall_mem_cons.mp hw
    refine .cons le_rfl ?_
    rw [Scan.step, if_pos hc]
    exact ih hs

/-- The text of a string is read to its end, and no further. -/
theorem Runs.chars (hs : Chars s) : Runs d (.str d) s (.str d) := by
  induction hs with
  | nil => exact .nil le_rfl
  | unescaped hspace hquote hbackslash h ih =>
    refine .cons le_rfl ?_
    rw [Scan.step, if_neg hquote, if_neg hbackslash]
    exact ih
  | escaped hc h ih => exact .cons le_rfl (.cons le_rfl ih)
  | unicode hx hy hz hu h ih =>
    have hhex : ∀ {x : Char}, IsHex x → (Scan.str d).step x = .str d := by
      intro x hx
      have hne : x ≠ '"' ∧ x ≠ '\\' := by
        constructor <;>
        · rintro rfl
          simp [IsHex] at hx
      rw [Scan.step, if_neg hne.1, if_neg hne.2]
    refine .cons le_rfl (.cons le_rfl (.cons le_rfl ?_))
    rw [show ((Scan.str _).step '\\').step 'u' = .str _ from rfl, hhex hx]
    refine .cons le_rfl ?_
    rw [hhex hy]
    refine .cons le_rfl ?_
    rw [hhex hz]
    refine .cons le_rfl ?_
    rw [hhex hu]
    exact ih

end Runs

/-! ## Derived texts -/

section Derived

variable {d : ℕ} {comma : Bool} {s : List Char}

theorem plain_of_isDigit {c : Char} (h : c.isDigit) : Plain c := by
  intro hmem
  fin_cases hmem <;> simp at h

theorem Digits.plain (h : Digits s) : ∀ c ∈ s, Plain c := fun c hc ↦ plain_of_isDigit (h.2 c hc)

theorem plain_append {t : List Char} (hs : ∀ c ∈ s, Plain c) (ht : ∀ c ∈ t, Plain c) :
    ∀ c ∈ s ++ t, Plain c := List.forall_mem_append.mpr ⟨hs, ht⟩

theorem IntPart.plain (h : IntPart s) : s ≠ [] ∧ ∀ c ∈ s, Plain c := by
  rcases h with rfl | ⟨h, -⟩
  · exact ⟨by simp, by simp [Plain]⟩
  · exact ⟨h.1, h.plain⟩

theorem Number.plain (h : Number s) : s ≠ [] ∧ ∀ c ∈ s, Plain c := by
  obtain ⟨sign, int, frac, exp, rfl, hsign, hint, hfrac, hexp⟩ := h
  have hsign : ∀ c ∈ sign, Plain c := by
    rcases hsign with rfl | rfl <;> simp [Plain]
  have hfrac : ∀ c ∈ frac, Plain c := by
    rcases hfrac with rfl | ⟨ds, hds, rfl⟩
    · simp
    · exact List.forall_mem_cons.mpr ⟨by simp [Plain], hds.plain⟩
  have hexp : ∀ c ∈ exp, Plain c := by
    rcases hexp with rfl | ⟨e, sgn, ds, he, hsgn, hds, rfl⟩
    · simp
    · refine List.forall_mem_cons.mpr ⟨?_, plain_append ?_ hds.plain⟩
      · rcases he with rfl | rfl <;> simp [Plain]
      · rcases hsgn with rfl | rfl | rfl <;> simp [Plain]
  exact ⟨by simp [hint.plain.1],
    plain_append hsign (plain_append hint.plain.2 (plain_append hfrac hexp))⟩

/-- Brackets, and what is between them. -/
theorem Runs.brackets {l r : Char} (hl : l = '[' ∨ l = '{') (hr : r = ']' ∨ r = '}')
    (h : Runs (d + 1) (.out (d + 1) false) s (.out (d + 1) false)) :
    Runs d (.out d comma) (l :: (s ++ [r])) (.out d false) := by
  refine .cons le_rfl ?_
  rw [show (Scan.out d comma).step l = .out (d + 1) false from by rcases hl with rfl | rfl <;> rfl]
  refine .append (h.mono (Nat.le_succ d)) (.cons (Nat.le_succ d) ?_)
  rw [show (Scan.out (d + 1) false).step r = .out d false from by rcases hr with rfl | rfl <;> rfl]
  exact .nil le_rfl

/-- Between the brackets, the scanner is within them. -/
theorem Runs.over_of_brackets {l r : Char} (hl : l = '[' ∨ l = '{')
    (h : Runs (d + 1) (.out (d + 1) false) s (.out (d + 1) false)) {p : List Char}
    (hp : p <+: l :: (s ++ [r])) (hnil : p ≠ []) (hne : p ≠ l :: (s ++ [r])) :
    (scan (.out d comma) p).Over (d + 1) := by
  rcases List.prefix_cons_iff.mp hp with rfl | ⟨q, rfl, hq⟩
  · exact absurd rfl hnil
  · have hqs : q <+: s := by
      rcases List.prefix_concat_iff.mp hq with rfl | hqs
      · exact absurd rfl hne
      · exact hqs
    rw [scan_cons, show (Scan.out d comma).step l = .out (d + 1) false from by
      rcases hl with rfl | rfl <;> rfl]
    exact h.stays q hqs

/-- **Derived texts are balanced.** -/
theorem Derives.runs {ph : Phrase} (h : Derives ph s) (d : ℕ) (comma : Bool) :
    Runs d (.out d comma) s (.out d false) := by
  induction h generalizing d comma with
  | litNull => exact .plain_of_ne_nil (by simp) (by simp [Plain])
  | litTrue => exact .plain_of_ne_nil (by simp) (by simp [Plain])
  | litFalse => exact .plain_of_ne_nil (by simp) (by simp [Plain])
  | num h => exact .plain_of_ne_nil h.plain.1 h.plain.2
  | str h => exact .cons le_rfl (.append (.chars h) (.cons le_rfl (.nil le_rfl)))
  | arrNil hw => exact .brackets (.inl rfl) (.inl rfl) (.space hw)
  | arr h ih => exact .brackets (.inl rfl) (.inl rfl) (ih _ _)
  | objNil hw => exact .brackets (.inr rfl) (.inr rfl) (.space hw)
  | obj h ih => exact .brackets (.inr rfl) (.inr rfl) (ih _ _)
  | element hw h hw' ih => exact .append (.space hw) (.append (ih d comma) (.space hw'))
  | elements h ht ih iht => exact .append (ih d comma) (.cons le_rfl (iht d true))
  | member hw hk hw' h ih =>
    refine .append (.space hw) (.cons le_rfl (.append (.chars hk) (.cons le_rfl ?_)))
    exact .append (.space hw') (.cons le_rfl (ih d false))
  | members h ht ih iht => exact .append (ih d comma) (.cons le_rfl (iht d true))

/-- An object that is cut off leaves the scanner in its brackets. -/
theorem Derives.over_of_cut {ms : List (List Char × JsonValue)} (h : Derives (.value (.obj ms)) s)
    {p : List Char} (hp : p <+: s) (hnil : p ≠ []) (hne : p ≠ s) :
    (scan (.out d comma) p).Over (d + 1) := by
  cases h with
  | objNil hw => exact Runs.over_of_brackets (.inr rfl) (.space hw) hp hnil hne
  | obj h => exact Runs.over_of_brackets (.inr rfl) (h.runs _ _) hp hnil hne

end Derived

/-! ## Lists of objects that are cut off -/

/-- Texts with commas between them, and one in front unless they are the first. -/
def join (first : Bool) : List (List Char) → List Char
  | [] => []
  | e :: es => (if first then e else ',' :: e) ++ join false es

theorem join_false_cons (e : List Char) (es : List (List Char)) :
    join false (e :: es) = ',' :: join true (e :: es) := by
  simp [join]

theorem join_append (first : Bool) (es es' : List (List Char)) :
    join first (es ++ es') = join first es ++ join (first && es.isEmpty) es' := by
  induction es generalizing first with
  | nil => simp [join]
  | cons e es ih => simp [join, ih]

theorem length_join_false (es : List (List Char)) :
    (join false es).length = (es.map List.length).sum + es.length := by
  induction es with
  | nil => rfl
  | cons e es ih =>
    simp only [join, Bool.false_eq_true, if_false, List.length_append, List.length_cons, ih,
      List.map_cons, List.sum_cons]
    omega

theorem length_join_true (es : List (List Char)) :
    (join true es).length = (es.map List.length).sum + (es.length - 1) := by
  cases es with
  | nil => rfl
  | cons e es =>
    simp only [join, if_true, List.length_append, length_join_false, List.map_cons, List.sum_cons,
      List.length_cons]
    omega

theorem join_take_isFront (first : Bool) (es : List (List Char)) (k : ℕ) :
    join first (es.take k) <+: join first es := by
  conv_rhs => rw [← List.take_append_drop k es, join_append]
  exact List.prefix_append _ _

/-- Texts of objects. -/
def Objects (es : List (List Char)) : Prop := ∀ e ∈ es, ∃ ms, Derives (.value (.obj ms)) e

/-- The list that the scanner is in cannot be closed here. -/
inductive Stuck (d : ℕ) : Scan → Prop
  /-- An element is missing. -/
  | comma : Stuck d (.out d true)
  /-- There are more brackets to be closed first. -/
  | within {st : Scan} (h : st.Over (d + 1)) : Stuck d st

section Cut

variable {d : ℕ} {es : List (List Char)}

/-- A text of the list that is cut off, with the comma in front of it. -/
theorem stuck_of_cut {e : List Char} {ms : List (List Char × JsonValue)}
    (he : Derives (.value (.obj ms)) e) (first : Bool) {m : ℕ} (hpos : 0 < m)
    (hlt : m < (if first then e else ',' :: e).length) :
    Stuck d (scan (.out d false) ((if first then e else ',' :: e).take m)) := by
  have hcut {comma : Bool} {n : ℕ} (hpos : 0 < n) (hlt : n < e.length) :
      (scan (.out d comma) (e.take n)).Over (d + 1) := by
    refine he.over_of_cut (List.take_prefix n e) ?_ fun heq ↦ ?_
    · exact List.ne_nil_of_length_pos (by rw [List.length_take]; omega)
    · have hlen := congrArg List.length heq
      rw [List.length_take] at hlen
      omega
  cases first with
  | true => exact .within (hcut hpos hlt)
  | false =>
    obtain ⟨n, rfl⟩ := Nat.exists_eq_succ_of_ne_zero hpos.ne'
    simp only [Bool.false_eq_true, if_false, List.length_cons, Nat.succ_eq_add_one] at hlt ⊢
    rw [List.take_succ_cons, scan_cons]
    -- all that is seen may be the comma
    rcases Nat.eq_zero_or_pos n with rfl | hn
    · exact .comma
    · exact .within (hcut hn (by omega))

/-- **Where a list is cut.** A list of objects is cut off behind one of them, or the scanner sees
it. -/
theorem cut_or_stuck (hes : Objects es) (first : Bool) {m : ℕ}
    (hm : m ≤ (join first es).length) :
    (∃ k, (join first (es.take k)).length = m) ∨
      Stuck d (scan (.out d false) ((join first es).take m)) := by
  induction es generalizing first m with
  | nil => exact .inl ⟨0, (Nat.le_zero.mp hm).symm⟩
  | cons e es ih =>
    obtain ⟨⟨ms, he⟩, hes⟩ := List.forall_mem_cons.mp hes
    rcases Nat.eq_zero_or_pos m with rfl | hpos
    · exact .inl ⟨0, rfl⟩
    · simp only [join] at hm ⊢
      rcases Nat.lt_or_ge m (if first then e else ',' :: e).length with hlt | hge
      · rw [List.take_append_of_le_length hlt.le]
        exact .inr (stuck_of_cut he first hpos hlt)
      · rw [List.length_append] at hm
        rcases ih hes false (m := m - (if first then e else ',' :: e).length) (by omega) with
          ⟨k, hk⟩ | hstuck
        · refine .inl ⟨k + 1, ?_⟩
          rw [List.take_succ_cons, join, List.length_append, hk]
          omega
        · -- what is before the cut is behind the scanner
          have hhead : scan (.out d false) (if first then e else ',' :: e) = .out d false := by
            cases first with
            | true => exact (he.runs d false).ends
            | false => exact (he.runs d true).ends
          rw [List.take_append, List.take_of_length_le hge, scan_append, hhead]
          exact .inr hstuck

/-- The front of a list shows nothing of being cut off: it is all of the list, or the cut is behind
one of the texts. -/
def Whole (m : ℕ) (es : List (List Char)) : Prop :=
  (join true es).length ≤ m ∨ ∃ k, (join true (es.take k)).length = m

theorem Objects.ne_nil (hes : Objects es) {e : List Char} (he : e ∈ es) : e ≠ [] := by
  obtain ⟨ms, h⟩ := hes e he
  cases h with
  | objNil hw => exact List.cons_ne_nil _ _
  | obj h => exact List.cons_ne_nil _ _

theorem length_join_take_lt (hes : Objects es) {k : ℕ} (hk : k < es.length) :
    (join true (es.take k)).length < (join true (es.take (k + 1))).length := by
  have hpos := List.length_pos_of_ne_nil (hes.ne_nil (List.getElem_mem hk))
  rw [List.take_succ_eq_append_getElem hk, join_append, List.length_append]
  cases true && (es.take k).isEmpty with
  | true => simpa [join] using hpos
  | false => simp [join]

/-- What is shown then is a list, and the next text would not have fitted. -/
theorem Whole.exists_take {m : ℕ} (h : Whole m es) (hes : Objects es) :
    ∃ k ≤ es.length, (join true es).take m = join true (es.take k) ∧
      (join true (es.take k)).length ≤ m ∧
      (k = es.length ∨ m < (join true (es.take (k + 1))).length) := by
  rcases h with hle | ⟨k, hk⟩
  · refine ⟨es.length, le_rfl, ?_, ?_, .inl rfl⟩
    · rw [List.take_of_length_le hle, List.take_length]
    · rwa [List.take_length]
  · have htake : (join true es).take m = join true (es.take k) := by
      rw [← hk]
      exact (List.prefix_iff_eq_take.mp (join_take_isFront true es k)).symm
    rcases Nat.lt_or_ge k es.length with hlt | hge
    · refine ⟨k, hlt.le, htake, hk.le, .inr ?_⟩
      rw [← hk]
      exact length_join_take_lt hes hlt
    · rw [List.take_of_length_le hge] at htake hk
      refine ⟨es.length, le_rfl, ?_, ?_, .inl rfl⟩
      · rwa [List.take_length]
      · rw [List.take_length]
        exact hk.le

/-- Closing fewer brackets than there are does not lead out of them. -/
theorem scan_closers_ne {post : List Char} (hpost : ∀ c ∈ post, c = ']' ∨ c = '}') {st : Scan}
    (hst : st = .dead ∨ st.Over (post.length + 1)) : scan st post ≠ .out 0 false := by
  induction post generalizing st with
  | nil =>
    rintro heq
    rw [scan_nil] at heq
    subst heq
    simp [Scan.Over] at hst
  | cons c post ih =>
    obtain ⟨hc, hpost⟩ := List.forall_mem_cons.mp hpost
    refine ih hpost ?_
    rcases hst with rfl | hst
    · exact .inl rfl
    · cases st with
      | dead => exact .inl rfl
      | out e comma =>
        have hstep : (Scan.out e comma).step c = .close e comma := by
          rcases hc with rfl | rfl <;> rfl
        have he : post.length + 1 + 1 ≤ e := hst
        obtain ⟨e, rfl⟩ := Nat.exists_eq_succ_of_ne_zero (by omega : e ≠ 0)
        rw [hstep]
        cases comma with
        | true => exact .inl rfl
        | false => exact .inr (Nat.le_of_succ_le_succ he)
      | str e =>
        have hstep : (Scan.str e).step c = .str e := by rcases hc with rfl | rfl <;> rfl
        rw [hstep]
        exact .inr ((Nat.le_succ _).trans hst)
      | esc e => exact .inr ((Nat.le_succ _).trans hst)

/-- **A list that cannot be closed.** Whatever value it is to have, a text is no document where a
list is stuck and nothing but brackets follows. -/
theorem not_document_of_stuck {pre txt post : List Char}
    (hpre : scan (.out 0 false) pre = .out d false)
    (hstuck : Stuck d (scan (.out d false) txt)) (hpost : ∀ c ∈ post, c = ']' ∨ c = '}')
    (hne : post ≠ []) (hlen : post.length ≤ d) (v : JsonValue) :
    ¬ Document v (pre ++ (txt ++ post)) := by
  intro hdoc
  have hends := (hdoc.runs 0 false).ends
  rw [scan_append, hpre, scan_append] at hends
  revert hends
  generalize scan (.out d false) txt = st at hstuck
  cases hstuck with
  | comma =>
    -- the first bracket follows the comma
    cases post with
    | nil => exact absurd rfl hne
    | cons c post =>
      obtain ⟨hc, hpost⟩ := List.forall_mem_cons.mp hpost
      have hdead : (Scan.out d true).step c = .dead := by
        rcases hc with rfl | rfl <;> cases d <;> rfl
      rw [scan_cons, hdead]
      exact scan_closers_ne hpost (.inl rfl)
  | within h => exact scan_closers_ne hpost (.inr (h.mono (by omega)))

/-- The other direction: a document that ends in a list shows nothing of its being cut off. -/
theorem whole_of_document (hes : Objects es) {pre post : List Char} {m : ℕ}
    (hpre : scan (.out 0 false) pre = .out d false) (hpost : ∀ c ∈ post, c = ']' ∨ c = '}')
    (hne : post ≠ []) (hlen : post.length ≤ d) {v : JsonValue}
    (hdoc : Document v (pre ++ ((join true es).take m ++ post))) : Whole m es := by
  rcases Nat.lt_or_ge m (join true es).length with hlt | hge
  · rcases cut_or_stuck hes true hlt.le with hcut | hstuck
    · exact .inr hcut
    · exact absurd hdoc (not_document_of_stuck hpre hstuck hpost hne hlen v)
  · exact .inl hge

end Cut

/-! ## Texts without whitespace -/

section Compact

variable {v : JsonValue} {s : List Char}

theorem Derives.compact (h : Derives (.value v) s) : Derives (.elements [v]) s := by
  have hnil : Space [] := by simp [Space]
  simpa using Derives.element hnil h hnil

theorem Derives.joined {vs : List JsonValue} {es : List (List Char)}
    (h : List.Forall₂ (fun v e ↦ Derives (.value v) e) vs es) (hne : es ≠ []) :
    Derives (.elements vs) (join true es) := by
  induction h with
  | nil => exact absurd rfl hne
  | @cons v e vs es he hes ih =>
    cases hes with
    | nil => simpa [join] using he.compact
    | cons he' hes' =>
      have hrest := ih (List.cons_ne_nil _ _)
      rw [join, join_false_cons]
      exact .elements he.compact hrest

/-- A list of texts in brackets. -/
theorem Derives.array {vs : List JsonValue} {es : List (List Char)}
    (h : List.Forall₂ (fun v e ↦ Derives (.value v) e) vs es) :
    Derives (.value (.arr vs)) ('[' :: (join true es ++ [']'])) := by
  rcases eq_or_ne es [] with rfl | hne
  · obtain rfl := List.forall₂_nil_right_iff.mp h
    exact .arrNil (List.forall_mem_nil _)
  · exact .arr (.joined h hne)

/-- The text of a member. -/
def field (k t : List Char) : List Char := '"' :: (k ++ '"' :: ':' :: t)

/-- A member has the name and the text that it should. -/
structure IsMember (m : List Char × JsonValue) (f : List Char × List Char) : Prop where
  name : m.1 = f.1
  chars : Chars f.1
  value : Derives (.value m.2) f.2

theorem Derives.oneField {m : List Char × JsonValue} {f : List Char × List Char}
    (h : IsMember m f) : Derives (.members [m]) (field f.1 f.2) := by
  obtain ⟨k, v⟩ := m
  obtain ⟨name, hk, hv⟩ := h
  obtain rfl : k = f.1 := name
  have hnil : Space [] := List.forall_mem_nil _
  simpa [field] using Derives.member hnil hk hnil hv.compact

theorem Derives.fields {ms : List (List Char × JsonValue)} {fs : List (List Char × List Char)}
    (h : List.Forall₂ IsMember ms fs) (hne : fs ≠ []) :
    Derives (.members ms) (join true (fs.map fun f ↦ field f.1 f.2)) := by
  induction h with
  | nil => exact absurd rfl hne
  | @cons m f ms fs hm hms ih =>
    cases hms with
    | nil => simpa [join] using Derives.oneField hm
    | cons hm' hms' =>
      have hrest := ih (List.cons_ne_nil _ _)
      rw [List.map_cons, List.map_cons, join, join_false_cons]
      exact .members (.oneField hm) hrest

/-- The text of an object. -/
def object (fs : List (List Char × List Char)) : List Char :=
  '{' :: (join true (fs.map fun f ↦ field f.1 f.2) ++ ['}'])

/-- A text has a value. -/
def IsValue (s : List Char) : Prop := ∃ v, Derives (.value v) s

/-- Members that are to have names and values. -/
def Members (fs : List (List Char × List Char)) : Prop := ∀ f ∈ fs, Chars f.1 ∧ IsValue f.2

section Members

variable {fs gs : List (List Char × List Char)} {k t : List Char}

theorem Members.nil : Members [] := List.forall_mem_nil _

theorem Members.cons (hk : Chars k) (ht : IsValue t) (h : Members fs) : Members ((k, t) :: fs) :=
  List.forall_mem_cons.mpr ⟨⟨hk, ht⟩, h⟩

theorem Members.append (h : Members fs) (h' : Members gs) : Members (fs ++ gs) :=
  List.forall_mem_append.mpr ⟨h, h'⟩

theorem Members.exists_fields (h : Members fs) : ∃ ms, List.Forall₂ IsMember ms fs := by
  induction fs with
  | nil => exact ⟨[], .nil⟩
  | cons f fs ih =>
    obtain ⟨⟨hk, v, hv⟩, hfs⟩ := List.forall_mem_cons.mp h
    obtain ⟨ms, hms⟩ := ih hfs
    exact ⟨(f.1, v) :: ms, .cons ⟨rfl, hk, hv⟩ hms⟩

theorem Members.exists_object (hne : fs ≠ []) (h : Members fs) :
    ∃ ms, Derives (.value (.obj ms)) (object fs) := by
  obtain ⟨ms, hms⟩ := h.exists_fields
  exact ⟨ms, .obj (.fields hms hne)⟩

theorem Members.isValue (hne : fs ≠ []) (h : Members fs) : IsValue (object fs) := by
  obtain ⟨ms, hms⟩ := h.exists_object hne
  exact ⟨_, hms⟩

end Members

/-- Texts of objects have values. -/
theorem Objects.exists_values {es : List (List Char)} (h : Objects es) :
    ∃ vs, List.Forall₂ (fun v e ↦ Derives (.value v) e) vs es := by
  induction es with
  | nil => exact ⟨[], .nil⟩
  | cons e es ih =>
    obtain ⟨⟨ms, he⟩, hes⟩ := List.forall_mem_cons.mp h
    obtain ⟨vs, hvs⟩ := ih hes
    exact ⟨.obj ms :: vs, .cons he hvs⟩

theorem Objects.take {es : List (List Char)} (h : Objects es) (k : ℕ) : Objects (es.take k) :=
  fun e he ↦ h e (List.mem_of_mem_take he)

/-- An object in which a list comes last. -/
theorem Derives.endsInArray {ms : List (List Char × JsonValue)} {fs : List (List Char × List Char)}
    {k : List Char} {vs : List JsonValue} {es : List (List Char)}
    (hms : List.Forall₂ IsMember ms fs) (hne : fs ≠ []) (hk : Chars k)
    (hes : List.Forall₂ (fun v e ↦ Derives (.value v) e) vs es) :
    Derives (.value (.obj (ms ++ [(k, .arr vs)])))
      ('{' :: (join true (fs.map fun f ↦ field f.1 f.2) ++
        (',' :: '"' :: (k ++ ['"', ':', '[']) ++ (join true es ++ [']', '}'])))) := by
  have hlast : IsMember (k, .arr vs) (k, '[' :: (join true es ++ [']'])) := ⟨rfl, hk, .array hes⟩
  have hobj := Derives.obj (.fields (List.rel_append hms (.cons hlast .nil)) (by simp))
  have hempty : (fs.map fun f ↦ field f.1 f.2).isEmpty = false := by simpa using hne
  rw [List.map_append, join_append, hempty] at hobj
  simpa [join, field] using hobj

/-- A character that stands for itself in a string. -/
def Unescaped (c : Char) : Prop := ' ' ≤ c ∧ c ≠ '"' ∧ c ≠ '\\'

instance (c : Char) : Decidable (Unescaped c) := inferInstanceAs (Decidable (_ ∧ _ ∧ _))

theorem chars_of_unescaped {s : List Char} (h : ∀ c ∈ s, Unescaped c) : Chars s := by
  induction s with
  | nil => exact .nil
  | cons c s ih =>
    obtain ⟨⟨hspace, hquote, hbackslash⟩, hs⟩ := List.forall_mem_cons.mp h
    exact .unescaped hspace hquote hbackslash (ih hs)

theorem Chars.append {s t : List Char} (hs : Chars s) (ht : Chars t) : Chars (s ++ t) := by
  induction hs with
  | nil => exact ht
  | unescaped hspace hquote hbackslash h ih => exact .unescaped hspace hquote hbackslash ih
  | escaped hc h ih => exact .escaped hc ih
  | unicode hx hy hz hu h ih => exact .unicode hx hy hz hu ih

theorem unescaped_of_isDigit {c : Char} (h : c.isDigit) : Unescaped c := by
  simp only [Char.isDigit, Bool.and_eq_true, decide_eq_true_eq] at h
  refine ⟨?_, ?_, ?_⟩
  · exact le_trans (by decide) h.1
  · rintro rfl
    exact absurd h.1 (by decide)
  · rintro rfl
    exact absurd h.2 (by decide)

/-- The text of a string. -/
def quoted (s : List Char) : List Char := '"' :: (s ++ ['"'])

/-- The text of a number. -/
def decimal (n : ℕ) : List Char := Nat.toDigits 10 n

theorem head?_decimal {n : ℕ} (hn : n ≠ 0) : (decimal n).head? ≠ some '0' := by
  induction n using Nat.strong_induction_on with
  | _ n ih =>
    rcases Nat.lt_or_ge n 10 with hlt | hge
    · rw [decimal, Nat.toDigits_of_lt_base hlt]
      interval_cases n <;> simp_all
    · rw [decimal, Nat.toDigits_of_base_le (by decide) hge, List.head?_append_of_ne_nil]
      · exact ih (n / 10) (by omega) (by omega)
      · exact Nat.toDigits_ne_nil

theorem number_decimal (n : ℕ) : Number (decimal n) := by
  refine ⟨[], decimal n, [], [], by simp, .inl rfl, ?_, .inl rfl, .inl rfl⟩
  rcases eq_or_ne n 0 with rfl | hn
  · exact .inl (Nat.toDigits_zero 10)
  · have hdigits : ∀ c ∈ decimal n, c.isDigit := fun c hc ↦
      Nat.isDigit_of_mem_toDigits (by decide) (by decide) hc
    exact .inr ⟨⟨Nat.toDigits_ne_nil, hdigits⟩, head?_decimal hn⟩

theorem chars_decimal (n : ℕ) : Chars (decimal n) :=
  chars_of_unescaped fun _ hc ↦
    unescaped_of_isDigit (Nat.isDigit_of_mem_toDigits (by decide) (by decide) hc)

theorem isValue_decimal (n : ℕ) : IsValue (decimal n) := ⟨_, .num (number_decimal n)⟩

theorem isValue_quoted {s : List Char} (hs : Chars s) : IsValue (quoted s) := ⟨_, .str hs⟩

end Compact

end JsonText
