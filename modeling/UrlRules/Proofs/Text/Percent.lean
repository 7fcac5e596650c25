import UrlRules.Proofs.Text.Utf8
import UrlRules.Text.Percent

/-!
# Encodings of a text in a query

A text can be written in a query in many ways: each of its characters as it is, if it is no mark of the query, or as
`%XX` for every octet of its UTF-8, and a space also as a plus sign (`Encodes`). Every one of them is decoded as the
text (`Encodes.decode_eq`).
-/
namespace UrlRules.Text.Percent

open Utf8

variable {s e written rest : Text} {octets pending : List Octet} {c mark : CodePoint}

/-- Octets written one after the other as `%XX`, with hexadecimal digits of either case. -/
inductive Escapes : List Octet → Text → Prop
  | nil : Escapes [] []
  | cons {high low : CodePoint} {h l : Nat} {octets : List Octet} {written : Text} (first : hexValue? high = some h)
      (second : hexValue? low = some l) (others : Escapes octets written) :
      Escapes ((h * 16 + l) :: octets) (percentSign :: high :: low :: written)

/-- The characters that have a meaning in a query: a percent, a plus, an ampersand, an equals and a hash sign. -/
def marks : Text := Text.of "%+&=#"

/-- The second text is a way to write the first one in a query. -/
inductive Encodes : Text → Text → Prop
  | nil : Encodes [] []
  | raw {c : CodePoint} {s e : Text} (plain : c ∉ marks) (others : Encodes s e) : Encodes (c :: s) (c :: e)
  | plus {s e : Text} (others : Encodes s e) : Encodes (space :: s) (plusSign :: e)
  | escaped {c : CodePoint} {s written e : Text} (octets : Escapes (encodeOne c) written) (others : Encodes s e) :
      Encodes (c :: s) (written ++ e)

/-! ## What an encoding is made of -/

theorem Escapes.digits (escapes : Escapes octets written) :
    ∀ d ∈ written, d = percentSign ∨ (hexValue? d).isSome = true := by
  induction escapes with
  | nil => simp
  | cons first second _ ih =>
    simp only [List.forall_mem_cons, true_or, true_and]
    exact ⟨.inr (by simp [first]), .inr (by simp [second]), ih⟩

/-- An encoding holds no sign that would end the key, the pair or the query it stands in. -/
theorem Encodes.apart (encodes : Encodes s e) (ends : mark ∈ Text.of "&=#") : mark ∉ e := by
  have ends : mark ∈ [0x26, 0x3D, 0x23] := ends
  induction encodes with
  | nil => exact List.not_mem_nil
  | raw plain _ ih =>
    have marked : ∀ m ∈ [0x26, 0x3D, 0x23], m ∈ marks := by decide
    exact List.not_mem_cons_of_ne_of_not_mem (fun same => plain (same ▸ marked mark ends)) ih
  | plus _ ih =>
    refine List.not_mem_cons_of_ne_of_not_mem (fun same => ?_) ih
    rw [same] at ends
    exact absurd ends (by decide)
  | escaped octets _ ih =>
    rw [List.mem_append, not_or]
    refine ⟨fun inside => ?_, ih⟩
    have none : ∀ d ∈ [0x26, 0x3D, 0x23], ¬(d = percentSign ∨ (hexValue? d).isSome = true) := by decide
    exact none mark ends (octets.digits mark inside)

/-! ## Decoding -/

/-- A character of ASCII that is no mark waits for what follows it. -/
theorem decodeAfter_raw (ascii : c < 0x80) (plain : c ∉ marks) (pending : List Octet) (rest : Text) :
    decodeAfter pending (c :: rest) = decodeAfter (c :: pending) rest := by
  have percent : c ≠ percentSign := by rintro rfl; exact plain (by decide)
  have plus : c ≠ plusSign := by rintro rfl; exact plain (by decide)
  rw [decodeAfter, if_neg (Nat.not_le.mpr ascii), if_neg plus, if_neg percent]

/-- A character beyond ASCII ends the octets that are pending. -/
theorem decodeAfter_beyond (beyond : 0x80 ≤ c) (pending : List Octet) (rest : Text) :
    decodeAfter pending (c :: rest) = decodeLossy pending.reverse ++ c :: decodeAfter [] rest := by
  rw [decodeAfter, if_pos beyond]

theorem decodeAfter_plus (pending : List Octet) (rest : Text) :
    decodeAfter pending (plusSign :: rest) = decodeAfter (space :: pending) rest := by
  rw [decodeAfter, if_neg (by decide), if_pos rfl]

/-- Octets that are written as `%XX` wait for what follows them. -/
theorem decodeAfter_escapes (escapes : Escapes octets written) (pending : List Octet) (rest : Text) :
    decodeAfter pending (written ++ rest) = decodeAfter (octets.reverse ++ pending) rest := by
  induction escapes generalizing pending with
  | nil => rfl
  | @cons high low h l octets written first second _ ih =>
    have octet : octetAtStart? (high :: low :: (written ++ rest)) = some (h * 16 + l) := by
      simp [octetAtStart?, first, second]
    rw [List.cons_append, List.cons_append, List.cons_append, decodeAfter, if_neg (by decide), if_neg (by decide),
      if_pos rfl, octet]
    simpa using ih ((h * 16 + l) :: pending)

/-- The octets pending are those of a text already: what follows it is decoded after it. -/
theorem Encodes.decodeAfter_eq (encodes : Encodes s e) (unicode : s.IsUnicode) (t : Text) (before : t.IsUnicode) :
    decodeAfter (encode t).reverse e = t ++ s := by
  induction encodes generalizing t with
  | nil => rw [decodeAfter, List.reverse_reverse, decodeLossy_encode before, List.append_nil]
  | @raw c s e plain _ ih =>
    obtain ⟨own, others⟩ := List.forall_mem_cons.mp unicode
    by_cases ascii : c < 0x80
    · have octet : encodeOne c = [c] := if_pos ascii
      have next := ih others (t ++ [c]) (before.snoc own)
      rw [encode_snoc, octet, List.reverse_append] at next
      rw [decodeAfter_raw ascii plain]
      simpa using next
    · have next := ih others [] (by simp [IsUnicode])
      rw [decodeAfter_beyond (Nat.le_of_not_lt ascii), List.reverse_reverse, decodeLossy_encode before]
      simpa [encode] using next
  | @plus s e _ ih =>
    obtain ⟨own, others⟩ := List.forall_mem_cons.mp unicode
    have octet : encodeOne space = [space] := rfl
    have next := ih others (t ++ [space]) (before.snoc own)
    rw [encode_snoc, octet, List.reverse_append] at next
    rw [decodeAfter_plus]
    simpa using next
  | @escaped c s written e octets _ ih =>
    obtain ⟨own, others⟩ := List.forall_mem_cons.mp unicode
    have next := ih others (t ++ [c]) (before.snoc own)
    rw [encode_snoc, List.reverse_append] at next
    rw [decodeAfter_escapes octets]
    simpa using next

/-- Every way to write a text is decoded as the text. -/
theorem Encodes.decode_eq (encodes : Encodes s e) (unicode : s.IsUnicode) : decode e = s := by
  have whole := encodes.decodeAfter_eq unicode [] (by simp [IsUnicode])
  simpa [decode, encode] using whole

theorem Encodes.ne_nil (encodes : Encodes s e) (unicode : s.IsUnicode) (some : s ≠ []) : e ≠ [] := by
  rintro rfl
  exact some ((encodes.decode_eq unicode).symm.trans (Encodes.nil.decode_eq (by simp [IsUnicode])))

end UrlRules.Text.Percent
