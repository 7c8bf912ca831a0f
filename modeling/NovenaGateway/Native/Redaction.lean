import NovenaGateway.ForStd.Search
import NovenaGateway.Native.Json

/-!
# Redaction

`redaction.py`: what is taken out of texts and configurations before they are published. Texts are
lists of characters here, and an index is a number of characters, as in the source.

`redact_text` looks for a marker in a copy of the text in lower case, and cuts the text itself at
the index it finds. The two need not agree: `İ` is one character, and its lower case two.
-/

namespace Novena

namespace Redaction

/-- `REDACTED`. -/
def redacted : String := "[REDACTED]"

/-- `SENSITIVE_KEY_PARTS`. -/
def sensitiveKeyParts : List String :=
  ["password", "token", "claim_code", "claimcode", "secret", "privatekey", "private_key",
    "authorization", "bearer", "keyfile"]

/-! ## Lower case -/

/-- `İ`, the only character whose lower case has more than one character. -/
def dottedI : Char := '\u0130'

/-- The second of them. -/
def dotAbove : Char := '\u0307'

/-- The lower case of a character. Besides `İ` only the Kelvin sign, of the characters outside
    ASCII, has an ASCII letter in its lower case; the others have one character outside ASCII, and
    which one it is cannot be seen where an ASCII text is looked for, so they stay. -/
def lowerChar (c : Char) : List Char :=
  if c = dottedI then ['i', dotAbove] else if c = '\u212a' then ['k'] else [c.toLower]

/-- `text.lower()`. -/
def lower (text : List Char) : List Char := text.flatMap lowerChar

/-- A text is lowered part by part. -/
theorem lower_append (text text' : List Char) : lower (text ++ text') = lower text ++ lower text' :=
  List.flatMap_append

/-- No character is lost. -/
theorem length_lowerChar (c : Char) : 1 ≤ (lowerChar c).length := by
  simp only [lowerChar]
  split
  · decide
  · split <;> exact Nat.le_refl 1

/-- So no lowered text is shorter. -/
theorem length_le_length_lower (text : List Char) : text.length ≤ (lower text).length := by
  induction text with
  | nil => exact Nat.le_refl 0
  | cons c cs ih =>
    have hc := length_lowerChar c
    rw [lower, List.flatMap_cons, List.length_append, ← lower, List.length_cons]
    omega

/-! ## Keys -/

/-- `is_sensitive_key`. -/
def isSensitiveKey (key : String) : Bool :=
  let keyText := lower (key.toList.map fun c => if c = '-' then '_' else c)
  sensitiveKeyParts.any fun part => (Search.find part.toList keyText).isSome

/-- `child in (None, "")`. -/
def isUnset : Json → Bool
  | .null => true
  | .str s => s = ""
  | _ => false

mutual
/-- `redact_secrets`. -/
def redactSecrets : Json → Json
  | .obj fields => .obj (redactSecretFields fields)
  | .arr xs => .arr (redactSecretItems xs)
  | v => v
/-- The items of a list. -/
def redactSecretItems : List Json → List Json
  | [] => []
  | x :: xs => redactSecrets x :: redactSecretItems xs
/-- The fields of a dictionary. -/
def redactSecretFields : List (String × Json) → List (String × Json)
  | [] => []
  | (key, child) :: fields =>
    (key, if isSensitiveKey key then if isUnset child then child else .str redacted
      else redactSecrets child) :: redactSecretFields fields
end

/-! ## Texts -/

/-- The characters that end a secret. -/
def isDelimiter (c : Char) : Bool := c ∈ [' ', ',', ';', '\x7d', ']']

/-- What is left of the text from the end of a secret on. -/
def afterSecret (text : List Char) : List Char := text.dropWhile fun c => !isDelimiter c

/-- Every replacement brings the search nearer to the end of the text in lower case. -/
theorem lower_replaced_lt {text : List Char} {start next : Nat} (h : start < next)
    (hlower : next ≤ (lower text).length) :
    (lower (text.take next ++ redacted.toList ++ afterSecret (text.drop next))).length -
        (next + redacted.toList.length) < (lower text).length - start := by
  have hmarker : (lower redacted.toList).length = redacted.toList.length := by decide
  have hafter : (lower (afterSecret (text.drop next))).length ≤ (lower (text.drop next)).length := by
    obtain ⟨secret, hsecret⟩ :=
      List.dropWhile_suffix (l := text.drop next) fun c => !isDelimiter c
    have hsplit : lower (text.drop next) = lower secret ++ lower (afterSecret (text.drop next)) := by
      rw [← lower_append, afterSecret, hsecret]
    rw [hsplit, List.length_append]
    omega
  have hsplit : lower text = lower (text.take next) ++ lower (text.drop next) := by
    rw [← lower_append, List.take_append_drop]
  have hlength : (lower text).length =
      (lower (text.take next)).length + (lower (text.drop next)).length := by
    rw [hsplit, List.length_append]
  rw [lower_append, lower_append, List.length_append, List.length_append, hmarker]
  omega

/-- The loop over the occurrences of `key ++ [sep]` from index `start` on. -/
def redactLoop (key : List Char) (sep : Char) (text : List Char) (start : Nat) : List Char :=
  match _h : Search.findFrom (key ++ [sep]) (lower text) start with
  | none => text
  | some idx =>
    let next := idx + (key ++ [sep]).length
    redactLoop key sep (text.take next ++ redacted.toList ++ afterSecret (text.drop next))
      (next + redacted.toList.length)
termination_by (lower text).length - start
decreasing_by
  have hfound := (Search.findFrom_eq_some _h).1
  have hmarker : key ++ [sep] ≠ [] := by simp
  have hlt := Search.findFrom_lt hmarker _h
  have hpos : 0 < (key ++ [sep]).length := by simp
  exact lower_replaced_lt (by omega) hlt

/-- The assignments that are looked for, in order: each key with each separator. -/
def assignments : List (List Char × Char) :=
  sensitiveKeyParts.flatMap fun key => [(key.toList, '='), (key.toList, ':')]

/-- `redact_text`, of a text. -/
def redactText (text : String) : String :=
  String.ofList (assignments.foldl (fun text a => redactLoop a.1 a.2 text 0) text.toList)

mutual
/-- `redact_diagnostics`. -/
def redactDiagnostics : Json → Json
  | .obj fields => .obj (redactDiagnosticFields fields)
  | .arr xs => .arr (redactDiagnosticItems xs)
  | .str s => .str (redactText s)
  | v => v
/-- The items of a list. -/
def redactDiagnosticItems : List Json → List Json
  | [] => []
  | x :: xs => redactDiagnostics x :: redactDiagnosticItems xs
/-- The fields of a dictionary. -/
def redactDiagnosticFields : List (String × Json) → List (String × Json)
  | [] => []
  | (key, child) :: fields =>
    (key, if isSensitiveKey key && !isUnset child then .str redacted
      else redactDiagnostics child) :: redactDiagnosticFields fields
end

end Redaction

end Novena
