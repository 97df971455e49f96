/-
Fingerprints of texts that differ. Every step of the hash can be undone, in the state (`Fingerprint.step_left_inj`) and
in the byte (`Fingerprint.step_right_inj`), so two states that differ still differ after any bytes
(`Fingerprint.foldl_step_inj`), and the digits of a hash tell it (`Fingerprint.hexText_inj`). Main statement:
`Fingerprint.ofJson_ne`, values whose texts are one byte apart have different fingerprints.
-/
import Rollout.Fingerprint
import Mathlib.Tactic

namespace Rollout.Fingerprint

/-! ## Steps -/

/-- The factor of a step is odd, so it has an inverse modulo 2^64. -/
def primeInverse : UInt64 := 0xce965057aff6957b

theorem prime_mul_primeInverse : prime * primeInverse = 1 := by decide

theorem mul_prime_inj {a b : UInt64} : a * prime = b * prime ↔ a = b := by
  refine ⟨fun h => ?_, fun h => h ▸ rfl⟩
  have hundone : ∀ c : UInt64, c * prime * primeInverse = c := fun c => by
    rw [UInt64.mul_assoc, prime_mul_primeInverse, UInt64.mul_one]
  rw [← hundone a, h, hundone b]

/-- Different states are led to different states by one byte. -/
theorem step_left_inj {s t : UInt64} {byte : UInt8} : step s byte = step t byte ↔ s = t := by
  unfold step
  rw [mul_prime_inj, UInt64.xor_left_inj]

/-- One state is led to different states by different bytes. -/
theorem step_right_inj {s : UInt64} {a b : UInt8} : step s a = step s b ↔ a = b := by
  unfold step
  rw [mul_prime_inj, UInt64.xor_right_inj, UInt8.toUInt64_inj]

/-- Different states are led to different states by the same bytes. -/
theorem foldl_step_inj (bytes : List UInt8) {s t : UInt64} : bytes.foldl step s = bytes.foldl step t ↔ s = t := by
  induction bytes generalizing s t with
  | nil => rfl
  | cons byte rest ih => rw [List.foldl_cons, List.foldl_cons, ih, step_left_inj]

/-- One byte among others is told by the hash of them all. -/
theorem ofBytes_inj_at (before after : List UInt8) {a b : UInt8} :
    ofBytes (before ++ a :: after) = ofBytes (before ++ b :: after) ↔ a = b := by
  unfold ofBytes
  rw [List.foldl_append, List.foldl_append, List.foldl_cons, List.foldl_cons, foldl_step_inj, step_right_inj]

/-! ## Digits -/

theorem digitChar_inj {a b : Nat} (ha : a < 16) (hb : b < 16) : Nat.digitChar a = Nat.digitChar b ↔ a = b := by
  have hdigits : ∀ a < 16, ∀ b < 16, Nat.digitChar a = Nat.digitChar b → a = b := by decide
  exact ⟨hdigits a ha b hb, fun h => h ▸ rfl⟩

theorem length_hexDigits : ∀ count n, (hexDigits count n).length = count
  | 0, _ => rfl
  | count + 1, n => by
    rw [hexDigits, List.length_append, length_hexDigits count (n / 16)]
    rfl

/-- Enough digits tell a number. -/
theorem hexDigits_inj : ∀ {count m n : Nat}, m < 16 ^ count → n < 16 ^ count →
    hexDigits count m = hexDigits count n → m = n
  | 0, m, n, hm, hn, _ => by
    rw [pow_zero] at hm hn
    omega
  | count + 1, m, n, hm, hn, h => by
    rw [pow_succ] at hm hn
    obtain ⟨hupper, hlast⟩ := List.append_inj' h rfl
    have hquotient : m / 16 = n / 16 := hexDigits_inj (by omega) (by omega) hupper
    have hremainder : m % 16 = n % 16 :=
      (digitChar_inj (Nat.mod_lt m (by decide)) (Nat.mod_lt n (by decide))).1 (List.singleton_inj.1 hlast)
    omega

theorem hexText_inj {a b : UInt64} : hexText a = hexText b ↔ a = b := by
  refine ⟨fun h => UInt64.toNat_inj.1 ?_, fun h => h ▸ rfl⟩
  exact hexDigits_inj a.toNat_lt b.toNat_lt (String.ofList_inj.1 h)

/-- Sixteen lower-case hexadecimal digits. -/
def IsHexText (s : String) : Prop := s.length = 16 ∧ ∀ c ∈ s.toList, c ∈ "0123456789abcdef".toList

theorem mem_hexDigits {c : Char} : ∀ {count n : Nat}, c ∈ hexDigits count n → c ∈ "0123456789abcdef".toList
  | count + 1, n, h => by
    rcases List.mem_append.1 h with h | h
    · exact mem_hexDigits h
    · have hdigits : ∀ d < 16, Nat.digitChar d ∈ "0123456789abcdef".toList := by decide
      rw [List.mem_singleton.1 h]
      exact hdigits _ (Nat.mod_lt n (by decide))

theorem isHexText_ofJson (value : Json) : IsHexText (ofJson value) := by
  unfold IsHexText ofJson hexText
  rw [← String.length_toList, String.toList_ofList]
  exact ⟨length_hexDigits _ _, fun c => mem_hexDigits⟩

theorem ofJson_ne_empty (value : Json) : ofJson value ≠ "" := by
  intro hempty
  have hlength := (isHexText_ofJson value).1
  rw [hempty] at hlength
  exact absurd hlength (by decide)

/-! ## Texts -/

/-- Two texts of one length that differ in one place. -/
def OneByteApart (a b : List UInt8) : Prop := a.length = b.length ∧ ∃! i : Nat, a[i]? ≠ b[i]?

/-- They have a byte each between what they share. -/
theorem OneByteApart.split {a b : List UInt8} (h : OneByteApart a b) :
    ∃ before x y after, a = before ++ x :: after ∧ b = before ++ y :: after ∧ x ≠ y := by
  obtain ⟨hlength, i, hdiffer, honly⟩ := h
  have hsame : ∀ j, j ≠ i → a[j]? = b[j]? := fun j hj => by_contra fun hne => hj (honly j hne)
  have hi : i < a.length := by
    by_contra hge
    rw [List.getElem?_eq_none (by omega), List.getElem?_eq_none (by omega)] at hdiffer
    exact hdiffer rfl
  have hi' : i < b.length := hlength ▸ hi
  have hbefore : a.take i = b.take i := by
    refine List.ext_getElem? fun j => ?_
    rw [List.getElem?_take, List.getElem?_take]
    split
    · exact hsame j (by omega)
    · rfl
  have hafter : a.drop (i + 1) = b.drop (i + 1) := by
    refine List.ext_getElem? fun j => ?_
    rw [List.getElem?_drop, List.getElem?_drop]
    exact hsame _ (by omega)
  refine ⟨a.take i, a[i], b[i], a.drop (i + 1), ?_, ?_, fun heq => hdiffer ?_⟩
  · rw [← List.drop_eq_getElem_cons hi, List.take_append_drop]
  · rw [hbefore, hafter, ← List.drop_eq_getElem_cons hi', List.take_append_drop]
  · rw [List.getElem?_eq_getElem hi, List.getElem?_eq_getElem hi', heq]

theorem oneByteApart_append (before after : List UInt8) {x y : UInt8} (hne : x ≠ y) :
    OneByteApart (before ++ x :: after) (before ++ y :: after) := by
  refine ⟨by simp, before.length, by simpa using hne,
    fun j (hj : (before ++ x :: after)[j]? ≠ (before ++ y :: after)[j]?) => ?_⟩
  by_contra hplace
  rcases Nat.lt_or_gt_of_ne hplace with hlt | hgt
  · rw [List.getElem?_append_left hlt, List.getElem?_append_left hlt] at hj
    exact hj rfl
  · obtain ⟨d, hd⟩ : ∃ d, j - before.length = d + 1 := ⟨j - before.length - 1, by omega⟩
    rw [List.getElem?_append_right hgt.le, List.getElem?_append_right hgt.le, hd] at hj
    exact hj rfl

/-- Values whose texts are one byte apart have different fingerprints. -/
theorem ofJson_ne {a b : Json} (h : OneByteApart (bytes a) (bytes b)) : ofJson a ≠ ofJson b := by
  obtain ⟨before, x, y, after, ha, hb, hne⟩ := h.split
  unfold ofJson
  rw [Ne, hexText_inj, ha, hb, ofBytes_inj_at]
  exact hne

end Rollout.Fingerprint
