import Mathlib
import LatexReview.Text.Utf8

/-!
Texts and the bytes that encode them.

No two texts have the same bytes, so there are fewer texts of a bounded length in bytes than
numbers with one digit more to the base 256.
-/

namespace LatexReview.Text

lemma toBytes_eq (s : Text) : s.toBytes = s.utf8Encode := by simp [toBytes]

lemma toBytes_append (s t : Text) : toBytes (s ++ t) = s.toBytes ++ t.toBytes := by
  simp only [toBytes_eq]
  exact List.utf8Encode_append

lemma ofBytes?_eq_some {bytes : ByteArray} {s : Text} :
    ofBytes? bytes = some s ↔ bytes = s.toBytes := by
  rw [ofBytes?, toBytes_eq, Option.map_eq_some_iff]
  constructor
  · rintro ⟨chars, hc, rfl⟩
    have hsome : bytes.utf8Decode?.isSome := by simp [hc]
    have henc := ByteArray.utf8Encode_get_utf8Decode? (h := hsome)
    simp only [hc, Option.get_some] at henc
    exact henc.symm
  · rintro rfl
    exact ⟨s.toArray, List.utf8Decode?_utf8Encode, rfl⟩

lemma ofBytes?_empty : ofBytes? .empty = some [] := by
  simp [ofBytes?]

lemma toBytes_inj {s t : Text} : s.toBytes = t.toBytes ↔ s = t := by
  refine ⟨fun h => ?_, fun h => h ▸ rfl⟩
  have hs := ofBytes?_eq_some.2 (rfl : s.toBytes = s.toBytes)
  have ht := ofBytes?_eq_some.2 h
  exact Option.some.inj (hs.symm.trans ht)

@[simp] lemma byteLength_nil : byteLength [] = 0 := rfl
@[simp] lemma byteLength_cons (c : Char) (s : Text) :
    byteLength (c :: s) = c.utf8Size + byteLength s := rfl

lemma size_toBytes (s : Text) : s.toBytes.size = byteLength s := by
  rw [toBytes_eq]
  induction s with
  | nil => rfl
  | cons c s ih =>
    rw [List.utf8Encode_cons, ByteArray.size_append, ih, byteLength_cons,
      List.utf8Encode_singleton]
    simp

/-! ### How many texts there are -/

/-- The digits of a text to the base 256: its bytes, and a last one that is not zero. -/
def digits (s : Text) : List ℕ := s.toBytes.data.toList.map UInt8.toNat ++ [1]

lemma length_digits (s : Text) : s.digits.length = byteLength s + 1 := by
  have hsize : s.toBytes.data.toList.length = s.toBytes.size := rfl
  rw [digits, List.length_append, List.length_map, hsize, size_toBytes]
  rfl

lemma lt_of_mem_digits {s : Text} {digit : ℕ} (h : digit ∈ s.digits) : digit < 256 := by
  rcases List.mem_append.1 h with h | h
  · obtain ⟨byte, -, rfl⟩ := List.mem_map.1 h
    exact byte.toNat_lt
  · obtain rfl := List.mem_singleton.1 h
    decide

lemma digits_inj {s t : Text} (h : s.digits = t.digits) : s = t := by
  have hbytes := List.append_cancel_right h
  have hdata := List.map_injective_iff.2 (fun a b => UInt8.toNat_inj.1) hbytes
  exact toBytes_inj.1 (ByteArray.ext (Array.toList_inj.1 hdata))

def code (s : Text) : ℕ := Nat.ofDigits 256 s.digits

lemma digits_code (s : Text) : Nat.digits 256 s.code = s.digits := by
  refine Nat.digits_ofDigits 256 (by decide) _ (fun _ => lt_of_mem_digits) fun _ => ?_
  simp [digits]

lemma code_injective : Function.Injective code := fun s t h => by
  refine digits_inj ?_
  rw [← digits_code s, ← digits_code t, h]

lemma code_lt (s : Text) : s.code < 256 ^ (byteLength s + 1) := by
  rw [← length_digits]
  exact Nat.ofDigits_lt_base_pow_length (by decide) fun _ => lt_of_mem_digits

lemma code_pos (s : Text) : 0 < s.code := by
  refine Nat.pos_of_ne_zero fun h => ?_
  have hdigits := digits_code s
  rw [h, Nat.digits_zero] at hdigits
  simp [digits] at hdigits

lemma length_lt_of_nodup {texts : List Text} {n : ℕ} (hnodup : texts.Nodup)
    (h : ∀ s ∈ texts, byteLength s ≤ n) : texts.length < 256 ^ (n + 1) := by
  have hmaps : Set.MapsTo code texts.toFinset (Finset.Ico 1 (256 ^ (n + 1))) := by
    intro s hs
    have hlength : byteLength s ≤ n := h s (by simpa using hs)
    have hpow : 256 ^ (byteLength s + 1) ≤ 256 ^ (n + 1) :=
      Nat.pow_le_pow_right (by decide) (Nat.succ_le_succ hlength)
    simpa using ⟨code_pos s, lt_of_lt_of_le (code_lt s) hpow⟩
  have hcard := Finset.card_le_card_of_injOn code hmaps code_injective.injOn
  rw [List.toFinset_card_of_nodup hnodup, Nat.card_Ico] at hcard
  have hpos : 0 < 256 ^ (n + 1) := Nat.pow_pos (by decide)
  omega

end LatexReview.Text
