import Mathlib.Data.String.Basic
import NovenaGateway.ForStd.SortByKey
import NovenaGateway.Native.RpcHandler

/-!
# The bytes a signature covers

`canonical_bytes` of `governed_commands.py` and `deployment_setup.py`: `json.dumps` with sorted
keys, compact separators and no ASCII escapes, encoded as UTF-8. The texts and the order of the
pieces are those of `json.encoder`. The sign of a zero is dropped, as in every float of the model,
and a string has no lone surrogates, which `encode` refuses.
-/

namespace Novena

namespace Json

/-! ## Strings -/

/-- `ESCAPE_DCT`: the characters with an escape of their own. -/
def shortEscape? (c : Char) : Option Char :=
  if c = '\\' then some '\\'
  else if c = '"' then some '"'
  else if c = Char.ofNat 8 then some 'b'
  else if c = Char.ofNat 12 then some 'f'
  else if c = '\n' then some 'n'
  else if c = '\r' then some 'r'
  else if c = '\t' then some 't'
  else none

/-- A character of a string literal; the other control characters are written `\u00xx`. -/
def escapeChar (c : Char) : List Char :=
  match shortEscape? c with
  | some letter => ['\\', letter]
  | none =>
    if c.toNat < 0x20 then
      ['\\', 'u', '0', '0', Nat.digitChar (c.toNat / 16), Nat.digitChar (c.toNat % 16)]
    else [c]

/-- `py_encode_basestring`. -/
def quoted (s : String) : List Char := '"' :: s.toList.flatMap escapeChar ++ ['"']

/-! ## Values -/

mutual
/-- `json.dumps` with the separators `","` and `":"`. -/
def compact : Json → List Char
  | str s => quoted s
  | arr xs => '[' :: compactItems true xs ++ [']']
  | obj fields => '\x7b' :: compactFields true fields ++ ['\x7d']
  | null => "null".toList
  | bool b => (jsonKey (bool b)).toList
  | int n => (jsonKey (int n)).toList
  | float x => (jsonKey (float x)).toList
/-- The items of a list; `first` is the flag of the encoder. -/
def compactItems (first : Bool) : List Json → List Char
  | [] => []
  | x :: xs => (if first then [] else [',']) ++ compact x ++ compactItems false xs
/-- The members of an object. -/
def compactFields (first : Bool) : List (String × Json) → List Char
  | [] => []
  | (k, x) :: fields =>
    (if first then [] else [',']) ++ (quoted k ++ ':' :: compact x) ++ compactFields false fields
end

mutual
/-- The value with the members of every object in the order of `sorted(dct.items())`. -/
def sortKeys : Json → Json
  | arr xs => arr (sortKeysItems xs)
  | obj fields => obj (sortKeysFields fields).sortByKey
  | v => v
/-- Every item. -/
def sortKeysItems : List Json → List Json
  | [] => []
  | x :: xs => sortKeys x :: sortKeysItems xs
/-- Every member's value. -/
def sortKeysFields : List (String × Json) → List (String × Json)
  | [] => []
  | (k, x) :: fields => (k, sortKeys x) :: sortKeysFields fields
end

/-- `json.dumps(payload, sort_keys=True, separators=(",", ":"), ensure_ascii=False)`. -/
def canonicalText (payload : Json) : String := String.ofList payload.sortKeys.compact

/-- `canonical_bytes`. -/
def canonicalBytes (payload : Json) : ByteArray := payload.canonicalText.toUTF8

example : (obj [("b", int 2), ("a", arr [null, str "x\ny"])]).sortKeys.compact =
    "\x7b\"a\":[null,\"x\\ny\"],\"b\":2\x7d".toList := by decide

end Json

/-- The functions of the libraries that take bytes. -/
structure ByteCrypto where
  /-- `key.verify(base64.b64decode(signature, validate=True), data)` with the key of an id. -/
  verify : String → ByteArray → Json → Bool
  /-- `hashlib.sha256(data).hexdigest()`. -/
  sha256 : ByteArray → String

/-- A configuration whose signatures and checksums are those of the canonical bytes. -/
def GuardConfig.overBytes (cfg : GuardConfig) (crypto : ByteCrypto) : GuardConfig :=
  { cfg with
    verifies := fun id payload signature => crypto.verify id payload.canonicalBytes signature
    checksum := fun payload => crypto.sha256 payload.canonicalBytes }

/-- The handler's configuration with such a guard. -/
def RpcConfig.overBytes (cfg : RpcConfig) (crypto : ByteCrypto) : RpcConfig :=
  { cfg with guard := cfg.guard.overBytes crypto }

end Novena
