import Mathlib.Data.List.Basic

/-!
# DbGateway.Aead

Authenticated encryption with associated data.

What is sealed under a key and a nonce opens under the same key and nonce, with
the same associated data.  A stream cipher with a tag is of this kind
(`Aead.ofStream`), whatever the stream and the tag are.
-/

namespace DbGateway

/-- Sealing and opening; either can fail. -/
structure Aead (Key Nonce Text Data Sealed : Type*) where
  encrypt : Key → Nonce → Text → Data → Option Sealed
  decrypt : Key → Nonce → Sealed → Data → Option Text
  decrypt_encrypt : ∀ {key nonce text data sealed},
    encrypt key nonce text data = some sealed → decrypt key nonce sealed data = some text

namespace Aead

/-- What is sealed under one key does not open under the other. -/
def Rejects {Key Nonce Text Data Sealed : Type*} (self : Aead Key Nonce Text Data Sealed)
    (key key' : Key) (nonce : Nonce) (text : Text) (data : Data) : Prop :=
  ∀ sealed, self.encrypt key nonce text data = some sealed →
    self.decrypt key' nonce sealed data = none

/-- A text under a stream of bytes. -/
def mask (stream : Nat → UInt8) (text : List UInt8) : List UInt8 :=
  text.mapIdx fun i b => b ^^^ stream i

theorem mask_mask (stream : Nat → UInt8) (text : List UInt8) :
    mask stream (mask stream text) = text := by
  refine List.ext_getElem (by simp [mask]) fun i _ _ => ?_
  simp only [mask, List.getElem_mapIdx, UInt8.xor_assoc, UInt8.xor_self, UInt8.xor_zero]

variable {Key Nonce Data : Type*} {size : Nat}

/-- A stream cipher that puts a tag of the masked text behind it. -/
def ofStream (stream : Key → Nonce → Nat → UInt8)
    (tag : Key → Nonce → Data → List UInt8 → {tag : List UInt8 // tag.length = size}) :
    Aead Key Nonce (List UInt8) Data (List UInt8) where
  encrypt key nonce text data :=
    let body := mask (stream key nonce) text
    some (body ++ (tag key nonce data body).1)
  decrypt key nonce sealed data :=
    let body := sealed.take (sealed.length - size)
    if sealed.drop (sealed.length - size) = (tag key nonce data body).1 then
      some (mask (stream key nonce) body)
    else none
  decrypt_encrypt := by
    intro key nonce text data sealed h
    cases h
    have hlength : (mask (stream key nonce) text ++
        (tag key nonce data (mask (stream key nonce) text)).1).length - size =
          (mask (stream key nonce) text).length := by
      rw [List.length_append, (tag _ _ _ _).2, Nat.add_sub_cancel]
    dsimp only
    rw [hlength, List.take_left, List.drop_left, if_pos rfl, mask_mask]

end Aead

end DbGateway
