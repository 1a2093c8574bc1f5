import SchemaScaffold.Text.Digits

/-!
# Percent encoding

Characters written as the bytes of their UTF-8 form, each byte as a percent sign and two digits
of base sixteen.
-/

namespace SchemaScaffold
namespace Url
namespace Percent

/-- A byte behind a percent sign. -/
def encodeByte (byte : UInt8) : List Char :=
  '%' :: Text.hexCapitals 2 byte.toNat

/-- A text with every character encoded that is not kept. -/
def encode (keeps : Char → Bool) (text : List Char) : List Char :=
  text.flatMap fun c =>
    if keeps c then [c] else (String.utf8EncodeChar c).flatMap encodeByte

/-- The bytes of a text in which encoded bytes stand for themselves. -/
def bytes : List Char → List UInt8
  | [] => []
  | '%' :: a :: b :: rest =>
    match Text.ofDigits? 16 [a, b] with
    | some value => UInt8.ofNat value :: bytes rest
    | none => String.utf8EncodeChar '%' ++ bytes (a :: b :: rest)
  | c :: rest => String.utf8EncodeChar c ++ bytes rest

/-- The text that an encoded text stands for, unless its bytes are not UTF-8. -/
def decode? (text : List Char) : Option (List Char) :=
  (String.fromUTF8? (ByteArray.mk (bytes text).toArray)).map String.toList

theorem encode_append (keeps : Char → Bool) (left right : List Char) :
    encode keeps (left ++ right) = encode keeps left ++ encode keeps right := by
  simp [encode]

theorem encode_eq_self {keeps : Char → Bool} {text : List Char}
    (kept : ∀ c ∈ text, keeps c = true) : encode keeps text = text := by
  induction text with
  | nil => rfl
  | cons c rest ih =>
    have keptRest := ih fun other member => kept other (List.mem_cons_of_mem c member)
    simp only [encode] at keptRest
    simp [encode, kept c, keptRest]

end Percent
end Url
end SchemaScaffold
