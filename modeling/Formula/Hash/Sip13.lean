import Formula.Hash.Xxh64

/-!
The keyed digest SipHash with one round per word and three at the end, here with a zero key.
-/

namespace Formula.Hash

namespace Sip13

structure State where
  v0 : UInt64
  v1 : UInt64
  v2 : UInt64
  v3 : UInt64

def start : State :=
  ⟨0x736f6d6570736575, 0x646f72616e646f6d, 0x6c7967656e657261, 0x7465646279746573⟩

def State.round (state : State) : State :=
  let a := state.v0 + state.v1
  let b := rotateLeft state.v1 13 ^^^ a
  let a := rotateLeft a 32
  let c := state.v2 + state.v3
  let d := rotateLeft state.v3 16 ^^^ c
  let e := a + d
  let d := rotateLeft d 21 ^^^ e
  let c := c + b
  let b := rotateLeft b 17 ^^^ c
  ⟨e, b, rotateLeft c 32, d⟩

def State.absorb (state : State) (word : UInt64) : State :=
  let mixed := { state with v3 := state.v3 ^^^ word }.round
  { mixed with v0 := mixed.v0 ^^^ word }

def lastWord (length : Nat) (tail : List UInt8) : UInt64 :=
  let low := tail.foldr (fun (byte : UInt8) (word : UInt64) => (word <<< 8) ||| byte.toUInt64) 0
  low ||| ((length % 256).toUInt64 <<< 56)

def State.finish (state : State) : UInt64 :=
  let last := { state with v2 := state.v2 ^^^ 0xff }.round.round.round
  last.v0 ^^^ last.v1 ^^^ last.v2 ^^^ last.v3

end Sip13

open Sip13 in
def sip13 (bytes : List UInt8) : UInt64 :=
  let (allWords, tail) := words bytes
  ((allWords.foldl State.absorb start).absorb (lastWord bytes.length tail)).finish

end Formula.Hash
