/-
Doubles on their way as text. The text of a double is a literal, whose parts are read one by one (`number?_literal`),
and it writes a number close enough to the double for there to be one to read. Main statement: `Json.exists_readAs`,
every value that has been written can be read.
-/
import Rollout.Json.Transfer
import Rollout.Proofs.Json.Resent
import Rollout.Proofs.Number.Shortest

namespace Rollout

namespace Json.Parser

open Double

/-! ## Digits -/

/-- The value of a digit. -/
def digitValue (c : Char) : ℕ := c.toNat - '0'.toNat

/-- Some digits. -/
def AreDigits (cs : List Char) : Prop := ∀ c ∈ cs, c.isDigit = true

variable {cs more : List Char}

theorem AreDigits.append (h : AreDigits cs) (h' : AreDigits more) : AreDigits (cs ++ more) := by
  intro c hc
  exact (List.mem_append.1 hc).elim (h c) (h' c)

theorem areDigits_toDigits (n : ℕ) : AreDigits (Nat.toDigits 10 n) := fun _ hc =>
  Nat.isDigit_of_mem_toDigits (by decide) (by decide) hc

theorem areDigits_zeros (n : ℕ) : AreDigits (List.replicate n '0') := by
  intro c hc
  rw [List.eq_of_mem_replicate hc]
  rfl

theorem AreDigits.value_lt (h : AreDigits cs) : ∀ d ∈ cs.map digitValue, d < 10 := by
  intro d hd
  obtain ⟨c, hc, rfl⟩ := List.mem_map.1 hd
  have hdigit := h c hc
  simp only [Char.isDigit, Bool.and_eq_true, decide_eq_true_eq] at hdigit
  have hle : c.toNat ≤ 57 := UInt32.le_iff_toNat_le.1 hdigit.2
  show c.toNat - 48 < 10
  omega

/-- What digits write is the number of their characters. -/
theorem written_map (cs : List Char) : written 0 (cs.map digitValue) = Nat.ofDigitChars 10 cs 0 := by
  unfold written
  rw [List.foldl_map, Nat.ofDigitChars_eq_foldl]
  simp only [Nat.mul_comm, digitValue]

/-- As many digits as fit into 64 bits. -/
theorem AreDigits.written_lt (h : AreDigits cs) (hlength : cs.length ≤ 19) :
    written 0 (cs.map digitValue) < 2 ^ 64 := by
  refine (Double.written_lt 0 h.value_lt).trans_le ?_
  rw [List.length_map]
  calc (0 + 1) * 10 ^ cs.length ≤ 10 ^ 19 := by
        rw [zero_add, one_mul]
        exact Nat.pow_le_pow_right (by norm_num) hlength
    _ ≤ 2 ^ 64 := by norm_num

/-- The digits of a number above zero do not begin with a zero. -/
theorem head_toDigits_ne {n : ℕ} (hn : 0 < n) : ∃ c cs, Nat.toDigits 10 n = c :: cs ∧ c ≠ '0' := by
  induction n using Nat.strongRecOn with
  | ind n ih =>
    rcases Nat.lt_or_ge n 10 with hlt | hge
    · refine ⟨n.digitChar, [], Nat.toDigits_of_lt_base hlt, ?_⟩
      interval_cases n <;> decide
    · obtain ⟨c, cs, hcs, hc⟩ := ih (n / 10) (by omega) (by omega)
      exact ⟨c, cs ++ [(n % 10).digitChar], by rw [Nat.toDigits_of_base_le (by decide) hge, hcs]; rfl, hc⟩

/-- Digits are read up to what is none. -/
theorem digits_append (h : AreDigits cs) (htail : ∀ c ∈ more.head?, c.isDigit = false) :
    digits (cs ++ more) = (cs.map digitValue, more) := by
  have hmore : more.takeWhile Char.isDigit = [] ∧ more.dropWhile Char.isDigit = more := by
    cases more with
    | nil => exact ⟨rfl, rfl⟩
    | cons c rest =>
      have hc := htail c rfl
      exact ⟨by rw [List.takeWhile_cons, hc]; rfl, by rw [List.dropWhile_cons, hc]; rfl⟩
  unfold digits
  rw [List.takeWhile_append_of_pos h, List.dropWhile_append_of_pos h, hmore.1, hmore.2, List.append_nil]
  rfl

/-! ## Literals -/

/-- Digits that begin a number: one of them, or more without a zero in front. -/
structure AreLeading (cs : List Char) : Prop where
  digits : AreDigits cs
  head : ∃ c rest, cs = c :: rest ∧ (c ≠ '0' ∨ rest = [])

theorem digitValue_ne_zero {c : Char} (h : c.isDigit = true) (hc : c ≠ '0') : digitValue c ≠ 0 := by
  intro hzero
  refine hc (Char.toNat_inj.1 ?_)
  simp only [Char.isDigit, Bool.and_eq_true, decide_eq_true_eq] at h
  have hge : 48 ≤ c.toNat := UInt32.le_iff_toNat_le.1 h.1
  have hle : c.toNat - 48 = 0 := hzero
  show c.toNat = 48
  omega

/-- A literal without its sign is read part by part, and as a double if it has a fraction or an exponent. -/
theorem number?_literal {negative : Bool} {whole tail tail' : List Char} {fraction : Option (List ℕ)}
    {exponent : Option ℤ} (hwhole : AreLeading whole) (htail : ∀ c ∈ tail.head?, c.isDigit = false)
    (hfraction : fraction? tail = some (fraction, tail')) (hexponent : exponent? tail' = some (exponent, []))
    (hdouble : fraction.isSome ∨ exponent.isSome) :
    number? ((if negative then ['-'] else []) ++ (whole ++ tail)) =
      (ofLiteral? negative (whole.map digitValue) (fraction.getD []) (exponent.getD 0)).map
        fun x => (.double x, []) := by
  obtain ⟨c, rest, rfl, hhead⟩ := hwhole.head
  have hsign : c ≠ '-' := by
    rintro rfl
    exact absurd (hwhole.digits '-' (List.mem_cons_self ..)) (by decide)
  have hvalue : digitValue c ≠ 0 ∨ rest = [] :=
    hhead.imp_left (digitValue_ne_zero (hwhole.digits c (List.mem_cons_self ..)))
  unfold number?
  split
  rename_i sign cs heq
  obtain ⟨rfl, rfl⟩ : sign = negative ∧ cs = c :: rest ++ tail := by
    cases negative with
    | true =>
      cases heq
      exact ⟨rfl, rfl⟩
    | false =>
      split at heq
      · rename_i hminus
        exact absurd (List.cons.inj hminus).1 hsign
      · cases heq
        exact ⟨rfl, rfl⟩
  rw [digits_append hwhole.digits htail, List.map_cons]
  generalize digitValue c = first at hvalue ⊢
  split
  · rename_i heq
    cases heq
  · rename_i heq
    cases rest with
    | nil => cases heq
    | cons => exact absurd (List.cons.inj (Prod.mk.inj heq).1).1 (hvalue.resolve_right (by simp))
  · rename_i heq
    cases heq
    rw [hfraction]
    dsimp only
    rw [hexponent]
    dsimp only
    split
    · simp at hdouble
    · rfl

/-- With or without a sign in front, the text is read as a double. -/
def ReadsAsDouble (text : List Char) : Prop :=
  ∀ negative : Bool, ∃ y, number? ((if negative then ['-'] else []) ++ text) = some (.double y, [])

/-- A literal without exponent or with a negative one, or of a safe number, is read as a double. -/
theorem readsAsDouble_literal (whole tail : List Char) {tail' : List Char} {fraction : Option (List ℕ)}
    {exponent : Option ℤ} (hwhole : AreLeading whole) (hlength : whole.length ≤ 19)
    (htail : ∀ c ∈ tail.head?, c.isDigit = false) (hfraction : fraction? tail = some (fraction, tail'))
    (hexponent : exponent? tail' = some (exponent, [])) (hdouble : fraction.isSome ∨ exponent.isSome)
    (hsafe : exponent.getD 0 ≤ 0 ∨ (written 0 (whole.map digitValue ++ fraction.getD []) : ℚ) *
      10 ^ (exponent.getD 0 - (fraction.getD []).length) ≤ safe) : ReadsAsDouble (whole ++ tail) := by
  intro negative
  rw [number?_literal hwhole htail hfraction hexponent hdouble]
  obtain ⟨y, hy⟩ := exists_ofLiteral? (hwhole.digits.written_lt hlength) hsafe
  exact ⟨y, by rw [hy]; rfl⟩

theorem fraction?_cons (cs : List Char) : fraction? ('.' :: cs) = match digits cs with
    | ([], _) => none
    | (ds, rest) => some (some ds, rest) := rfl

theorem fraction?_point (cs more : List Char) (h : AreDigits cs) (hne : cs ≠ [])
    (htail : ∀ c ∈ more.head?, c.isDigit = false) :
    fraction? ('.' :: (cs ++ more)) = some (some (cs.map digitValue), more) := by
  rw [fraction?_cons, digits_append h htail]
  cases cs with
  | nil => exact absurd rfl hne
  | cons => rfl

/-- An exponent as a sign and digits. -/
def exponentText (top : ℤ) : List Char := 'e' :: (if top < 0 then '-' else '+') :: Nat.toDigits 10 top.natAbs

theorem exponent?_cons (negative : Bool) (cs : List Char) :
    exponent? ('e' :: (if negative then '-' else '+') :: cs) = match digits cs with
      | ([], _) => none
      | (ds, rest) => some (some (if negative then -(ofDigits ds : ℤ) else ofDigits ds), rest) := by
  cases negative <;> rfl

theorem exponent?_exponentText (top : ℤ) : exponent? (exponentText top) = some (some top, []) := by
  have hdigits := digits_append (areDigits_toDigits top.natAbs) (show ∀ c ∈ ([] : List Char).head?, _ by simp)
  rw [List.append_nil] at hdigits
  have hvalue : ofDigits ((Nat.toDigits 10 top.natAbs).map digitValue) = top.natAbs :=
    (written_map _).trans Nat.ofDigitChars_ten_toDigits
  obtain ⟨first, rest, hne⟩ : ∃ first rest, (Nat.toDigits 10 top.natAbs).map digitValue = first :: rest :=
    List.exists_cons_of_ne_nil (by simp)
  have htext : exponentText top =
      'e' :: (if decide (top < 0) = true then '-' else '+') :: Nat.toDigits 10 top.natAbs := by
    simp [exponentText]
  rw [hne] at hdigits hvalue
  rw [htext, exponent?_cons, hdigits]
  dsimp only
  rw [hvalue]
  by_cases hnegative : top < 0
  · rw [decide_eq_true hnegative, if_pos rfl, show -(top.natAbs : ℤ) = top by omega]
  · rw [decide_eq_false hnegative, if_neg (by decide), show (top.natAbs : ℤ) = top by omega]

/-! ## Layouts -/

theorem areLeading_zero : AreLeading ['0'] := ⟨areDigits_zeros 1, '0', [], rfl, .inr rfl⟩

section Layouts

variable {c second : Char} {rest : List Char}

/-- A number with all its digits in front of the point, and zeros behind them. -/
theorem readsAsDouble_whole (h : AreDigits (c :: rest)) (hc : c ≠ '0') {zeros : ℕ}
    (hlength : rest.length + zeros < 19) : ReadsAsDouble (c :: rest ++ List.replicate zeros '0' ++ ['.', '0']) := by
  refine readsAsDouble_literal (c :: rest ++ List.replicate zeros '0') ('.' :: (['0'] ++ []))
    ⟨h.append (areDigits_zeros _), c, _, rfl, .inl hc⟩ ?_ (by simp)
    (fraction?_point ['0'] [] (areDigits_zeros 1) (by simp) (by simp)) rfl (.inl rfl) (.inl le_rfl)
  rw [List.length_append, List.length_replicate, List.length_cons]
  omega

/-- A number below one, with zeros between the point and its digits. -/
theorem readsAsDouble_below (h : AreDigits (c :: rest)) (zeros : ℕ) :
    ReadsAsDouble (['0', '.'] ++ List.replicate zeros '0' ++ c :: rest) := by
  have hpoint := fraction?_point _ [] ((areDigits_zeros zeros).append h) (by simp) (by simp)
  rw [List.append_nil] at hpoint
  exact readsAsDouble_literal ['0'] _ areLeading_zero (by simp) (by simp) hpoint rfl (.inl rfl) (.inl le_rfl)

/-- A number with the point among its digits. -/
theorem readsAsDouble_within (h : AreDigits (c :: rest)) (hc : c ≠ '0') {k : ℕ} (hk : k < 19)
    (hrest : k < rest.length) : ReadsAsDouble ((c :: rest).take (k + 1) ++ '.' :: (c :: rest).drop (k + 1)) := by
  have hpoint := fraction?_point ((c :: rest).drop (k + 1)) [] (fun d hd => h d (List.mem_of_mem_drop hd))
    (by rw [Ne, List.drop_eq_nil_iff, List.length_cons]; omega) (by simp)
  rw [List.append_nil] at hpoint
  refine readsAsDouble_literal ((c :: rest).take (k + 1)) _
    ⟨fun d hd => h d (List.mem_of_mem_take hd), c, rest.take k, rfl, .inl hc⟩ ?_ (by simp) hpoint rfl (.inl rfl)
    (.inl le_rfl)
  rw [List.length_take]
  omega

/-- One digit and an exponent. -/
theorem readsAsDouble_digit (h : AreDigits [c]) {top : ℤ} (hsafe : (written 0 [digitValue c] : ℚ) * 10 ^ top ≤ safe) :
    ReadsAsDouble ([c] ++ exponentText top) := by
  refine readsAsDouble_literal [c] (exponentText top) ⟨h, c, [], rfl, .inr rfl⟩ (by simp) (by simp [exponentText]) rfl
    (exponent?_exponentText top) (.inr rfl) (.inr ?_)
  rw [Option.getD_some, Option.getD_none, List.length_nil, Nat.cast_zero, sub_zero]
  exact hsafe

/-- Digits with the point behind the first one, and an exponent. -/
theorem readsAsDouble_scientific (h : AreDigits (c :: second :: rest)) {top : ℤ}
    (hsafe : (written 0 ((c :: second :: rest).map digitValue) : ℚ) * 10 ^ (top - (rest.length + 1 : ℕ)) ≤ safe) :
    ReadsAsDouble ([c] ++ '.' :: (second :: rest ++ exponentText top)) := by
  have hfirst : AreDigits [c] := fun d hd => h d (List.mem_of_mem_head? (List.mem_singleton.1 hd ▸ rfl))
  have hpoint := fraction?_point (second :: rest) (exponentText top) (fun d hd => h d (List.mem_cons_of_mem _ hd))
    (by simp) (by simp [exponentText])
  refine readsAsDouble_literal [c] _ ⟨hfirst, c, [], rfl, .inr rfl⟩ (by simp) (by simp) hpoint
    (exponent?_exponentText top) (.inr rfl) (.inr ?_)
  rw [Option.getD_some, Option.getD_some, List.length_map, List.length_cons]
  exact hsafe

end Layouts

/-- The layout of a safe number is read as a double. -/
theorem readsAsDouble_layout {n : ℕ} {ten : ℤ} (hn : 0 < n) (hsafe : (n : ℚ) * 10 ^ ten ≤ safe) :
    ReadsAsDouble (Double.layout.text (Nat.toDigits 10 n) ten) := by
  obtain ⟨c, rest, hcs, hc⟩ := head_toDigits_ne hn
  have hdigits : AreDigits (c :: rest) := hcs ▸ areDigits_toDigits n
  have hwritten : written 0 ((c :: rest).map digitValue) = n := by
    rw [written_map, ← hcs, Nat.ofDigitChars_ten_toDigits]
  rw [hcs]
  unfold Double.Layout.text
  extract_lets top mantissa
  have htop : top = ten + rest.length := by
    show ten + ((c :: rest).length : ℤ) - 1 = _
    rw [List.length_cons]
    push_cast
    ring
  by_cases hpositional : (decide (Double.layout.lowest ≤ top) && decide (top < Double.layout.highest)) = true
  · have hrange : top < 16 := by
      rw [Bool.and_eq_true, decide_eq_true_eq, decide_eq_true_eq] at hpositional
      exact hpositional.2
    rw [if_pos hpositional]
    by_cases hwhole : 0 ≤ ten
    · rw [if_pos hwhole]
      exact readsAsDouble_whole hdigits hc (by omega)
    rw [if_neg hwhole]
    by_cases hbelow : top < 0
    · rw [if_pos hbelow]
      exact readsAsDouble_below hdigits _
    · obtain ⟨k, hk⟩ : ∃ k, (top + 1).toNat = k + 1 := ⟨top.toNat, by omega⟩
      rw [if_neg hbelow, hk]
      exact readsAsDouble_within hdigits hc (by omega) (by omega)
  · have hscaled : (written 0 ((c :: rest).map digitValue) : ℚ) * 10 ^ (top - rest.length) ≤ safe := by
      rw [hwritten, htop, add_sub_cancel_right]
      exact hsafe
    rw [if_neg hpositional]
    cases rest with
    | nil =>
      rw [List.length_nil, Nat.cast_zero, sub_zero] at hscaled
      exact readsAsDouble_digit hdigits hscaled
    | cons second rest => exact readsAsDouble_scientific hdigits hscaled

end Json.Parser

/-! ## Values -/

theorem Double.text_eq (x : Double) : x.text = (if x.negative then ['-'] else []) ++
    if x.position = 0 then ['0', '.', '0']
    else Double.layout.text (Nat.toDigits 10 (Shortest.decimal x.position).1) (Shortest.decimal x.position).2 := by
  unfold Double.text
  cases x.negative <;> rfl

/-- So can the three largest doubles of each sign. -/
theorem Double.isSome_resent_top : ∀ k : Fin 3, ∀ negative : Bool,
    ((ofPosition? negative (Magnitude.bound - 1 - k)).bind resent?).isSome = true := by
  decide +kernel

/-- Every double that has been written can be read. -/
theorem Double.exists_resent (x : Double) : ∃ y, x.resent? = some y := by
  obtain ⟨negative, position, hposition⟩ := x
  rcases Nat.lt_or_ge position (Magnitude.bound - 3) with hsafe | htop
  · suffices hread : ∃ y, Json.Parser.number? (Double.text ⟨negative, position, hposition⟩) = some (.double y, []) by
      obtain ⟨y, hy⟩ := hread
      exact ⟨y, by unfold Double.resent?; rw [hy]⟩
    rw [Double.text_eq]
    dsimp only
    by_cases hzero : position = 0
    · rw [if_pos hzero]
      exact Json.Parser.readsAsDouble_below (Json.Parser.areDigits_zeros 1) 0 negative
    · rw [if_neg hzero]
      obtain ⟨hpos, hle⟩ := Shortest.decimal_spec (Nat.pos_of_ne_zero hzero) hsafe
      exact Json.Parser.readsAsDouble_layout hpos hle negative
  · have hread := isSome_resent_top ⟨Magnitude.bound - 1 - position, by omega⟩ negative
    have hsame : Magnitude.bound - 1 - (Magnitude.bound - 1 - position) = position := by omega
    rw [hsame, ofPosition?, dif_pos hposition, Option.bind_some] at hread
    exact Option.isSome_iff_exists.1 hread

namespace Json

mutual

/-- Every value that has been written can be read. -/
theorem exists_readAs : ∀ j : Json, ∃ r, j.ReadAs r
  | .double x => by
    obtain ⟨y, hy⟩ := x.exists_resent
    exact ⟨.double y, by unfold ReadAs; rw [resent?, hy]; rfl⟩
  | .arr items => by
    obtain ⟨read, hread⟩ := exists_resentItems items
    exact ⟨.arr read, readAs_arr_iff.2 ⟨read, hread, rfl⟩⟩
  | .obj members => by
    obtain ⟨read, hread⟩ := exists_resentMembers members
    exact ⟨.obj read, readAs_obj_iff.2 ⟨read, hread, rfl⟩⟩
  | .null | .bool _ | .int _ | .str _ => ⟨_, rfl⟩

theorem exists_resentItems : ∀ items : List Json, ∃ read, resentItems? items = some read
  | [] => ⟨[], rfl⟩
  | item :: rest => by
    obtain ⟨v, hv⟩ := exists_readAs item
    obtain ⟨r, hr⟩ := exists_resentItems rest
    exact ⟨v :: r, resentItems?_cons_iff.2 ⟨v, r, hv, hr, rfl⟩⟩

theorem exists_resentMembers : ∀ members : List (String × Json), ∃ read, resentMembers? members = some read
  | [] => ⟨[], rfl⟩
  | (key, value) :: rest => by
    obtain ⟨v, hv⟩ := exists_readAs value
    obtain ⟨r, hr⟩ := exists_resentMembers rest
    exact ⟨(key, v) :: r, resentMembers?_cons_iff.2 ⟨v, r, hv, hr, rfl⟩⟩

end

end Json

end Rollout
