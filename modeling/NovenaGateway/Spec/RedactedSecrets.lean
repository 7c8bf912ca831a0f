import NovenaGateway.ForStd.DictMap
import NovenaGateway.Native.Redaction

/-!
# What redacted values say about secrets

`redact_secrets` and `redact_diagnostics` go through a value in the same way and differ in what
they make of a text. Both replace a secret by a text that does not depend on it, so two values that
differ in secrets only have one image, and what stands under no sensitive key is where it was.

Key results:
- `Redaction.secrets_do_not_show`
-/

namespace Novena

namespace Redaction

/-! ## Values that differ in secrets -/

mutual
/-- The values are the same but for what stands under sensitive keys, where both are set. -/
inductive Alike : Json → Json → Prop
  | same (v : Json) : Alike v v
  | arr {xs ys : List Json} (h : AlikeItems xs ys) : Alike (.arr xs) (.arr ys)
  | obj {fields fields' : List (String × Json)} (h : AlikeFields fields fields') :
      Alike (.obj fields) (.obj fields')
/-- The items of two lists, one by one. -/
inductive AlikeItems : List Json → List Json → Prop
  | nil : AlikeItems [] []
  | cons {x y : Json} {xs ys : List Json} (h : Alike x y) (hrest : AlikeItems xs ys) :
      AlikeItems (x :: xs) (y :: ys)
/-- The fields of two dictionaries, one by one. -/
inductive AlikeFields : List (String × Json) → List (String × Json) → Prop
  | nil : AlikeFields [] []
  | secret {key : String} {child child' : Json} {fields fields' : List (String × Json)}
      (hkey : isSensitiveKey key = true) (hset : isUnset child = false)
      (hset' : isUnset child' = false) (hrest : AlikeFields fields fields') :
      AlikeFields ((key, child) :: fields) ((key, child') :: fields')
  | field {key : String} {child child' : Json} {fields fields' : List (String × Json)}
      (h : Alike child child') (hrest : AlikeFields fields fields') :
      AlikeFields ((key, child) :: fields) ((key, child') :: fields')
end

/-- Values that are alike are equal, or both are set. -/
theorem Alike.eq_or_set {v w : Json} (h : Alike v w) :
    v = w ∨ isUnset v = false ∧ isUnset w = false := by
  cases h with
  | same => exact .inl rfl
  | arr => exact .inr ⟨rfl, rfl⟩
  | obj => exact .inr ⟨rfl, rfl⟩

/-! ## Positions -/

/-- One step into a value. -/
inductive Step where
  | key (key : String)
  | index (i : Nat)

/-- What stands at a position. -/
def valueAt : Json → List Step → Option Json
  | v, [] => some v
  | .obj fields, .key key :: path => (Dict.get? fields key).bind fun v => valueAt v path
  | .arr xs, .index i :: path => (xs[i]?).bind fun v => valueAt v path
  | _, _ => none

/-- A value with nothing in it that is not a text. -/
def isPlainLeaf : Json → Bool
  | .null | .bool _ | .int _ | .float _ | .arr [] | .obj [] => true
  | _ => false

/-- No step of the position is a sensitive key. -/
def Open (path : List Step) : Prop := ∀ key, Step.key key ∈ path → isSensitiveKey key = false

/-! ## Both functions -/

/-- What becomes of the value of a field when `r` is what becomes of a value. -/
def fieldBy (r : Json → Json) (key : String) (child : Json) : Json :=
  if isSensitiveKey key && !isUnset child then .str redacted else r child

/-- What `redact_secrets` and `redact_diagnostics` have in common. -/
structure Redacts (r : Json → Json) : Prop where
  arr : ∀ xs, r (.arr xs) = .arr (xs.map r)
  obj : ∀ fields, r (.obj fields) = .obj (fields.map fun p => (p.1, fieldBy r p.1 p.2))
  leaf : ∀ v, isPlainLeaf v = true → r v = v

/-- The items are redacted one by one. -/
theorem redactSecretItems_eq_map (xs : List Json) : redactSecretItems xs = xs.map redactSecrets := by
  induction xs with
  | nil => rfl
  | cons x xs ih => rw [redactSecretItems, ih, List.map_cons]

/-- A value that is not set stays as it is. -/
theorem redactSecrets_of_isUnset {v : Json} (h : isUnset v = true) : redactSecrets v = v := by
  cases v with
  | null => rfl
  | str s => rfl
  | bool b => rfl
  | int n => rfl
  | float x => rfl
  | arr xs => cases h
  | obj fields => cases h

/-- The members are redacted by their keys. -/
theorem redactSecretFields_eq_map (fields : List (String × Json)) :
    redactSecretFields fields = fields.map fun p => (p.1, fieldBy redactSecrets p.1 p.2) := by
  induction fields with
  | nil => rfl
  | cons p fields ih =>
    obtain ⟨key, child⟩ := p
    have hfield : (if isSensitiveKey key then if isUnset child then child else .str redacted
        else redactSecrets child) = fieldBy redactSecrets key child := by
      unfold fieldBy
      cases isSensitiveKey key with
      | false => rfl
      | true =>
        -- what is unset stays as it is, in both readings
        cases hunset : isUnset child with
        | false => rfl
        | true => exact (redactSecrets_of_isUnset hunset).symm
    rw [redactSecretFields, ih, List.map_cons, hfield]

/-- So the secrets are redacted. -/
theorem redacts_redactSecrets : Redacts redactSecrets where
  arr xs := by rw [redactSecrets, redactSecretItems_eq_map]
  obj fields := by rw [redactSecrets, redactSecretFields_eq_map]
  leaf v h := by
    cases v with
    | arr xs => cases xs with
      | nil => rfl
      | cons x xs => cases h
    | obj fields => cases fields with
      | nil => rfl
      | cons p fields => cases h
    | _ => rfl

/-- In the diagnostics too, item by item. -/
theorem redactDiagnosticItems_eq_map (xs : List Json) :
    redactDiagnosticItems xs = xs.map redactDiagnostics := by
  induction xs with
  | nil => rfl
  | cons x xs ih => rw [redactDiagnosticItems, ih, List.map_cons]

/-- And member by member. -/
theorem redactDiagnosticFields_eq_map (fields : List (String × Json)) :
    redactDiagnosticFields fields = fields.map fun p => (p.1, fieldBy redactDiagnostics p.1 p.2) := by
  induction fields with
  | nil => rfl
  | cons p fields ih => rw [redactDiagnosticFields, ih, List.map_cons]; rfl

/-- So they are redacted there. -/
theorem redacts_redactDiagnostics : Redacts redactDiagnostics where
  arr xs := by rw [redactDiagnostics, redactDiagnosticItems_eq_map]
  obj fields := by rw [redactDiagnostics, redactDiagnosticFields_eq_map]
  leaf v h := by
    cases v with
    | arr xs => cases xs with
      | nil => rfl
      | cons x xs => cases h
    | obj fields => cases fields with
      | nil => rfl
      | cons p fields => cases h
    | str s => cases h
    | _ => rfl

section Redacts

variable {r : Json → Json}

mutual
/-- A redaction makes the same of both values. -/
theorem Redacts.eq_of_alike (hr : Redacts r) : ∀ {v w : Json}, Alike v w → r v = r w
  | _, _, .same _ => rfl
  | _, _, .arr h => by rw [hr.arr, hr.arr, hr.items_eq_of_alike h]
  | _, _, .obj h => by rw [hr.obj, hr.obj, hr.fields_eq_of_alike h]
/-- Lists that are alike are redacted to the same. -/
theorem Redacts.items_eq_of_alike (hr : Redacts r) :
    ∀ {xs ys : List Json}, AlikeItems xs ys → xs.map r = ys.map r
  | _, _, .nil => rfl
  | _, _, .cons h hrest => by
    rw [List.map_cons, List.map_cons, hr.eq_of_alike h, hr.items_eq_of_alike hrest]
/-- And so are objects. -/
theorem Redacts.fields_eq_of_alike (hr : Redacts r) :
    ∀ {fields fields' : List (String × Json)}, AlikeFields fields fields' →
      fields.map (fun p => (p.1, fieldBy r p.1 p.2)) =
        fields'.map (fun p => (p.1, fieldBy r p.1 p.2))
  | _, _, .nil => rfl
  | _, _, .secret hkey hset hset' hrest => by
    rw [List.map_cons, List.map_cons, hr.fields_eq_of_alike hrest, fieldBy, fieldBy, hkey, hset,
      hset']
    rfl
  | _, _, .field h hrest => by
    rw [List.map_cons, List.map_cons, hr.fields_eq_of_alike hrest, fieldBy, fieldBy,
      hr.eq_of_alike h]
    -- what is unset differs from nothing but itself
    rcases h.eq_or_set with heq | ⟨hset, hset'⟩
    · rw [heq]
    · rw [hset, hset']
end

/-- A leaf under no sensitive key stays where it is. -/
theorem Redacts.valueAt_leaf (hr : Redacts r) {v leaf : Json} {path : List Step}
    (h : valueAt v path = some leaf) (hleaf : isPlainLeaf leaf = true)
    (hopen : Open path) : valueAt (r v) path = some leaf := by
  induction path generalizing v with
  | nil =>
    simp only [valueAt, Option.some.injEq] at h ⊢
    rw [h, hr.leaf leaf hleaf]
  | cons step path ih =>
    have hrest : Open path := fun key hmem => hopen key (List.mem_cons_of_mem step hmem)
    cases v with
    | obj fields =>
      cases step with
      | index i => cases h
      | key key =>
        obtain ⟨child, hchild, h⟩ := Option.bind_eq_some_iff.mp h
        have hfield : fieldBy r key child = r child := by
          rw [fieldBy, hopen key List.mem_cons_self]
          rfl
        rw [hr.obj, valueAt, Dict.get?_map (fieldBy r), hchild]
        show valueAt (fieldBy r key child) path = some leaf
        rw [hfield]
        exact ih h hrest
    | arr xs =>
      cases step with
      | key key => cases h
      | index i =>
        obtain ⟨x, hx, h⟩ := Option.bind_eq_some_iff.mp h
        rw [hr.arr, valueAt, List.getElem?_map, hx]
        exact ih h hrest
    | null | bool | int | float | str => cases step <;> cases h

end Redacts

/-! ## No secret shows -/

/-- Of two values that differ in secrets only, `redact_secrets` makes the same, and so does
    `redact_diagnostics`; both leave every leaf that is not a text and stands under no sensitive
    key where it is. -/
theorem secrets_do_not_show (v : Json) :
    (∀ w, Alike v w →
      redactSecrets v = redactSecrets w ∧ redactDiagnostics v = redactDiagnostics w) ∧
    ∀ path leaf, valueAt v path = some leaf → isPlainLeaf leaf = true → Open path →
      valueAt (redactSecrets v) path = some leaf ∧
        valueAt (redactDiagnostics v) path = some leaf := by
  constructor
  · intro w h
    exact ⟨redacts_redactSecrets.eq_of_alike h, redacts_redactDiagnostics.eq_of_alike h⟩
  · intro path leaf h hleaf hopen
    exact ⟨redacts_redactSecrets.valueAt_leaf h hleaf hopen,
      redacts_redactDiagnostics.valueAt_leaf h hleaf hopen⟩

/-- The configuration of a broker account with this password. -/
def accountWith (password : Json) : Json :=
  .obj [("mqtt", .obj [("Pass-Word", .int 1), ("MQTT-password", password), ("port", .int 1883)])]

/-- A password of any kind does not show, and the port stays. -/
theorem secrets_do_not_show_account :
    redactSecrets (accountWith (.str "first")) =
        redactSecrets (accountWith (.arr [.obj [("token", .int 2)]])) ∧
      redactDiagnostics (accountWith (.str "first")) =
        redactDiagnostics (accountWith (.arr [.obj [("token", .int 2)]])) ∧
      valueAt (redactDiagnostics (accountWith (.str "first"))) [.key "mqtt", .key "port"] =
        some (.int 1883) := by
  have hsensitive : isSensitiveKey "MQTT-password" = true := by decide +kernel
  have halike : Alike (accountWith (.str "first"))
      (accountWith (.arr [.obj [("token", .int 2)]])) :=
    .obj (.field (.obj (.field (.same _) (.secret hsensitive (by decide) rfl
      (.field (.same _) .nil)))) .nil)
  have hopen : Open [.key "mqtt", .key "port"] := by
    intro key hkey
    rcases List.mem_cons.mp hkey with heq | hkey
    · cases heq
      decide +kernel
    · cases List.mem_singleton.mp hkey
      decide +kernel
  have hdoesnot := secrets_do_not_show (accountWith (.str "first"))
  obtain ⟨hsecrets, hdiagnostics⟩ := hdoesnot.1 _ halike
  exact ⟨hsecrets, hdiagnostics, (hdoesnot.2 _ _ rfl rfl hopen).2⟩

end Redaction

end Novena
