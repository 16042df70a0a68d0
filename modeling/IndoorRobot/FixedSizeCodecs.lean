import Mathlib.Data.Set.Function
import Mathlib.Data.List.Basic

/-!
# Codecs of a fixed size

An encoder and a decoder of some size belong together if every value is read back from any
list that starts with its encoding, and every list that is long enough starts with the
encoding of what is read from it. Two codecs one behind the other are a codec of pairs, and
values may be renamed.
-/
namespace IndoorRobot.FixedSizeCodecs

variable {α β γ : Type*} {m n size : ℕ} {encode : α → List γ} {decode : List γ → α}

structure IsCodec (size : ℕ) (encode : α → List γ) (decode : List γ → α) : Prop where
  length : ∀ a, (encode a).length = size
  decode_encode : ∀ a rest, decode (encode a ++ rest) = a
  encode_decode : ∀ l, size ≤ l.length → encode (decode l) = l.take size

/-- The encoder is a bijection to the lists of the size, and the decoder its inverse. -/
def Bijection (size : ℕ) (encode : α → List γ) (decode : List γ → α) : Prop :=
  Set.BijOn encode Set.univ {l | l.length = size} ∧
    Set.InvOn decode encode Set.univ {l | l.length = size}

theorem IsCodec.bijection (h : IsCodec size encode decode) : Bijection size encode decode := by
  have hinverse : Set.InvOn decode encode Set.univ {l | l.length = size} := by
    constructor
    · intro a _
      simpa using h.decode_encode a []
    · intro l hl
      have hsize : l.length = size := hl
      rw [h.encode_decode l hsize.ge, ← hsize, List.take_length]
  exact ⟨hinverse.bijOn (fun a _ => h.length a) (fun _ _ => Set.mem_univ _), hinverse⟩

theorem isCodec_singleton (default : γ) :
    IsCodec 1 (fun a : γ => [a]) (fun l => l.getD 0 default) where
  length _ := rfl
  decode_encode _ _ := rfl
  encode_decode l hl := by
    cases l with
    | nil => simp at hl
    | cons a l => simp

/-- The second codec starts where the first one ends. -/
theorem IsCodec.append {encode' : β → List γ} {decode' : List γ → β}
    (h : IsCodec m encode decode) (h' : IsCodec n encode' decode') :
    IsCodec (m + n) (fun p : α × β => encode p.1 ++ encode' p.2)
      (fun l => (decode l, decode' (l.drop m))) where
  length p := by rw [List.length_append, h.length, h'.length]
  decode_encode p rest := by
    rw [List.append_assoc, h.decode_encode, List.drop_left' (h.length p.1), h'.decode_encode]
  encode_decode l hl := by
    have hrest : n ≤ (l.drop m).length := by
      rw [List.length_drop]
      omega
    rw [h.encode_decode l (by omega), h'.encode_decode _ hrest, List.take_add]

theorem IsCodec.map (h : IsCodec size encode decode) (out : α → β) (back : β → α)
    (hout : ∀ b, out (back b) = b) (hback : ∀ a, back (out a) = a) :
    IsCodec size (fun b => encode (back b)) (fun l => out (decode l)) where
  length b := h.length (back b)
  decode_encode b rest := by rw [h.decode_encode, hout]
  encode_decode l hl := by rw [hback, h.encode_decode l hl]

end IndoorRobot.FixedSizeCodecs
