import NovenaGateway.Native.CommandResults

/-!
# What counts as a failed response

`_find_response_error` looks for an error through all dictionaries and lists of a response. It
takes the absence of the whole response for an error, and so it takes every `None` inside of it; and
it compares `success` with `False` by identity. `findResponseError_iff` says what it finds,
`classified_iff` when that is what makes a response a failure.
-/

namespace Novena.RpcHandler

/-- `v` is the response or is reached through values of dictionaries and items of lists. -/
inductive Within (v : Json) : Json → Prop
  | here : Within v v
  | field {fields : List (String × Json)} {key : String} {w : Json} (hmem : (key, w) ∈ fields)
      (h : Within v w) : Within v (.obj fields)
  | item {items : List Json} {w : Json} (hmem : w ∈ items) (h : Within v w) : Within v (.arr items)

/-- `success == False`: a dictionary may hold a zero there. -/
def SuccessFalse (fields : List (String × Json)) : Prop :=
  ∃ v, Dict.get? fields "success" = some v ∧ v.eq (.bool false) = true

/-- A truthy `error`. -/
def CarriesError (fields : List (String × Json)) : Prop :=
  ((Dict.get? fields "error").getD .null).truthy = true

/-- There is no response, or a dictionary of it reports a failure. -/
def Failed (response : Json) : Prop :=
  response = .null ∨
    ∃ fields, Within (.obj fields) response ∧ (SuccessFalse fields ∨ CarriesError fields)

/-! ## Every error is a text

The search asks of what it found below whether it is truthy, so an empty text would be passed over.
None is empty. -/

/-- A text with something in front is not empty. -/
theorem append_ne_empty {s t : String} (h : s ≠ "") : s ++ t ≠ "" := by
  intro heq
  have hlength := congrArg String.length heq
  simp only [String.length_append, String.length_empty, Nat.add_eq_zero_iff,
    String.length_eq_zero_iff] at hlength
  exact h hlength.1

/-- Nor is a number. -/
theorem toString_ne_empty (n : Int) : toString n ≠ "" := by
  cases n with
  | ofNat m =>
    intro h
    have hlist := congrArg String.toList h
    rw [show (toString (Int.ofNat m)).toList = Nat.toDigits 10 m from String.toList_ofList] at hlist
    exact Nat.toDigits_ne_nil hlist
  | negSucc m => exact append_ne_empty (s := "-") (by decide)

/-- Nor a float. -/
theorem reprDouble_ne_empty (x : Double) : Json.reprDouble x ≠ "" := by
  intro h
  obtain ⟨n, nearest, -, hread⟩ | hquestion := Json.reprDouble_cases x
  · -- a text that reads back is not empty
    have hempty : floatOfStr "" = none := by decide
    rw [h, hempty] at hread
    cases hread
  · rw [hquestion] at h
    exact append_ne_empty (s := "?") (by decide) h

/-- Nor the text of any value that counts as true. -/
theorem toStr_ne_empty {v : Json} (h : v.truthy = true) : v.toStr ≠ "" := by
  cases v with
  | null => cases h
  | bool b => cases b <;> decide
  | int n => exact toString_ne_empty n
  | float x =>
    cases x with
    | fin x => exact reprDouble_ne_empty x
    | inf neg => cases neg <;> decide
    | nan => decide
  | str s => exact of_decide_eq_true h
  | arr items => exact append_ne_empty (append_ne_empty (by decide))
  | obj fields => exact append_ne_empty (append_ne_empty (by decide))

/-! ## What is found -/

/-- `success is False`, or a truthy `error`. -/
def Reports (fields : List (String × Json)) : Prop :=
  Dict.get? fields "success" = some (.bool false) ∨ CarriesError fields

/-- What the search stops at. -/
def Stops (v : Json) : Prop := v = .null ∨ ∃ fields, v = .obj fields ∧ Reports fields

/-- What lies within an object. -/
theorem within_obj {v : Json} {fields : List (String × Json)} :
    Within v (.obj fields) ↔ v = .obj fields ∨ ∃ key w, (key, w) ∈ fields ∧ Within v w := by
  constructor
  · intro h
    cases h with
    | here => exact .inl rfl
    | field hmem h => exact .inr ⟨_, _, hmem, h⟩
  · rintro (rfl | ⟨key, w, hmem, h⟩)
    · exact .here
    · exact .field hmem h

/-- And within a list. -/
theorem within_arr {v : Json} {items : List Json} :
    Within v (.arr items) ↔ v = .arr items ∨ ∃ w ∈ items, Within v w := by
  constructor
  · intro h
    cases h with
    | here => exact .inl rfl
    | item hmem h => exact .inr ⟨_, hmem, h⟩
  · rintro (rfl | ⟨w, hmem, h⟩)
    · exact .here
    · exact .item hmem h

/-- The search never stops at a list. -/
theorem not_stops_arr {items : List Json} : ¬ Stops (.arr items) := by
  rintro (h | ⟨_, h, -⟩) <;> cases h

/-- At an object it stops when the object reports an error. -/
theorem stops_obj {fields : List (String × Json)} : Stops (.obj fields) ↔ Reports fields := by
  constructor
  · rintro (h | ⟨_, h, hreports⟩)
    · cases h
    · exact Json.obj.inj h ▸ hreports
  · exact fun h => .inr ⟨fields, rfl, h⟩

/-- The members are searched in their order. -/
theorem findFieldError_cons (key : String) (w : Json) (fields : List (String × Json)) :
    findFieldError ((key, w) :: fields) = (findResponseError w).or (findFieldError fields) := by
  rw [findFieldError]
  cases findResponseError w <;> rfl

/-- And so are the items. -/
theorem findItemError_cons (w : Json) (items : List Json) :
    findItemError (w :: items) = (findResponseError w).or (findItemError items) := by
  rw [findItemError]
  cases findResponseError w <;> rfl

/-- A dictionary that reports no failure is searched further. -/
theorem findResponseError_obj (fields : List (String × Json)) :
    (findResponseError (.obj fields)).isSome = true ↔
      Reports fields ∨ (findFieldError fields).isSome = true := by
  simp only [findResponseError]
  split
  · next hsuccess => simp [Reports, hsuccess]
  · next hsuccess =>
    have hreports : Reports fields ↔ CarriesError fields :=
      ⟨fun h => h.resolve_left hsuccess, .inr⟩
    rw [hreports, CarriesError]
    split
    · next herror => simp [herror]
    · next herror => simp [herror]

/-- A scalar is no response that the search stops at. -/
theorem scalar_isSome {r : Json} (hnone : findResponseError r = none) (hstops : ¬ Stops r)
    (hwithin : ∀ v, Within v r → v = r) :
    (findResponseError r).isSome = true ↔ ∃ v, Within v r ∧ Stops v := by
  rw [hnone]
  constructor
  · intro h
    cases h
  · rintro ⟨v, hv, hs⟩
    exact absurd (hwithin v hv ▸ hs) hstops

mutual
/-- An error is found exactly when the search reaches something it stops at. -/
theorem findResponseError_isSome : ∀ r : Json,
    (findResponseError r).isSome = true ↔ ∃ v, Within v r ∧ Stops v
  | .null => by
    simp only [findResponseError, Option.isSome_some, true_iff]
    exact ⟨.null, .here, .inl rfl⟩
  | .obj fields => by
    rw [findResponseError_obj, findFieldError_isSome fields]
    simp only [within_obj, or_and_right, exists_or, exists_eq_left, stops_obj]
    apply or_congr_right
    constructor
    · rintro ⟨key, w, hmem, v, hv, hs⟩
      exact ⟨v, ⟨key, w, hmem, hv⟩, hs⟩
    · rintro ⟨v, ⟨key, w, hmem, hv⟩, hs⟩
      exact ⟨key, w, hmem, v, hv, hs⟩
  | .arr items => by
    rw [findResponseError, findItemError_isSome items]
    simp only [within_arr, or_and_right, exists_or, exists_eq_left, not_stops_arr, false_or]
    constructor
    · rintro ⟨w, hmem, v, hv, hs⟩
      exact ⟨v, ⟨w, hmem, hv⟩, hs⟩
    · rintro ⟨v, ⟨w, hmem, hv⟩, hs⟩
      exact ⟨w, hmem, v, hv, hs⟩
  | .bool _ => scalar_isSome rfl (by rintro (h | ⟨_, h, -⟩) <;> cases h) (by rintro v ⟨⟩; rfl)
  | .int _ => scalar_isSome rfl (by rintro (h | ⟨_, h, -⟩) <;> cases h) (by rintro v ⟨⟩; rfl)
  | .float _ => scalar_isSome rfl (by rintro (h | ⟨_, h, -⟩) <;> cases h) (by rintro v ⟨⟩; rfl)
  | .str _ => scalar_isSome rfl (by rintro (h | ⟨_, h, -⟩) <;> cases h) (by rintro v ⟨⟩; rfl)
/-- A member is found when the search stops somewhere within it. -/
theorem findFieldError_isSome : ∀ fields : List (String × Json),
    (findFieldError fields).isSome = true ↔
      ∃ key w, (key, w) ∈ fields ∧ ∃ v, Within v w ∧ Stops v
  | [] => by simp [findFieldError]
  | (key, w) :: fields => by
    rw [findFieldError_cons, Option.isSome_or, Bool.or_eq_true, findResponseError_isSome w,
      findFieldError_isSome fields]
    constructor
    · rintro (hfirst | ⟨key', w', hmem, hrest⟩)
      · exact ⟨key, w, List.mem_cons_self, hfirst⟩
      · exact ⟨key', w', List.mem_cons_of_mem _ hmem, hrest⟩
    · rintro ⟨key', w', hmem, hfound⟩
      obtain heq | hmem := List.mem_cons.mp hmem
      · obtain ⟨rfl, rfl⟩ := Prod.mk.inj heq
        exact .inl hfound
      · exact .inr ⟨key', w', hmem, hfound⟩
/-- And so is an item. -/
theorem findItemError_isSome : ∀ items : List Json,
    (findItemError items).isSome = true ↔ ∃ w ∈ items, ∃ v, Within v w ∧ Stops v
  | [] => by simp [findItemError]
  | w :: items => by
    rw [findItemError_cons, Option.isSome_or, Bool.or_eq_true, findResponseError_isSome w,
      findItemError_isSome items]
    simp only [List.mem_cons, exists_eq_or_imp]
end

mutual
/-- What is found is truthy. -/
theorem findResponseError_truthy : ∀ {r e : Json}, findResponseError r = some e → e.truthy = true
  | .null, e, h => by
    obtain rfl := Option.some.inj h
    decide
  | .obj fields, e, h => by
    simp only [findResponseError] at h
    split at h
    · obtain rfl := Option.some.inj h
      rw [Json.orElse]
      split
      · assumption
      · decide
    · split at h
      · next herror =>
        obtain rfl := Option.some.inj h
        simpa [Json.truthy] using toStr_ne_empty herror
      · exact findFieldError_truthy h
  | .arr items, e, h => by
    rw [findResponseError] at h
    exact findItemError_truthy h
  | .bool _, _, h => by cases h
  | .int _, _, h => by cases h
  | .float _, _, h => by cases h
  | .str _, _, h => by cases h
/-- What is found in a member counts as true. -/
theorem findFieldError_truthy : ∀ {fields : List (String × Json)} {e : Json},
    findFieldError fields = some e → e.truthy = true
  | [], _, h => by cases h
  | (key, w) :: fields, e, h => by
    rw [findFieldError_cons, Option.or_eq_some_iff] at h
    obtain hw | ⟨-, hrest⟩ := h
    · exact findResponseError_truthy hw
    · exact findFieldError_truthy hrest
/-- And what is found in an item. -/
theorem findItemError_truthy : ∀ {items : List Json} {e : Json},
    findItemError items = some e → e.truthy = true
  | [], _, h => by cases h
  | w :: items, e, h => by
    rw [findItemError_cons, Option.or_eq_some_iff] at h
    obtain hw | ⟨-, hrest⟩ := h
    · exact findResponseError_truthy hw
    · exact findItemError_truthy hrest
end

/-! ## Classification -/

/-- A dictionary of the response reports a failure as the search tests it. -/
def Reported (response : Json) : Prop :=
  ∃ fields, Within (.obj fields) response ∧ Reports fields

/-- A dictionary of the response has a `success` that equals `False` and is not `False`. -/
def ZeroSuccess (response : Json) : Prop :=
  ∃ fields v, Within (.obj fields) response ∧ Dict.get? fields "success" = some v ∧
    v.eq (.bool false) = true ∧ v ≠ .bool false

/-- The search finds something exactly when there is a null or a report within the response. -/
theorem findResponseError_iff (response : Json) :
    (findResponseError response).isSome = true ↔ Within .null response ∨ Reported response := by
  rw [findResponseError_isSome]
  constructor
  · rintro ⟨v, hv, rfl | ⟨fields, rfl, hreports⟩⟩
    · exact .inl hv
    · exact .inr ⟨fields, hv, hreports⟩
  · rintro (hnull | ⟨fields, hfields, hreports⟩)
    · exact ⟨.null, hnull, .inl rfl⟩
    · exact ⟨.obj fields, hfields, stops_obj.mpr hreports⟩

/-- Equality with `False` is identity with it or a zero. -/
theorem failed_iff (response : Json) :
    Failed response ↔ response = .null ∨ Reported response ∨ ZeroSuccess response := by
  apply or_congr_right
  constructor
  · rintro ⟨fields, hfields, ⟨v, hv, heq⟩ | herror⟩
    · by_cases hfalse : v = .bool false
      · exact .inl ⟨fields, hfields, .inl (hfalse ▸ hv)⟩
      · exact .inr ⟨fields, v, hfields, hv, heq, hfalse⟩
    · exact .inl ⟨fields, hfields, .inr herror⟩
  · rintro (⟨fields, hfields, hfalse | herror⟩ | ⟨fields, v, hfields, hv, heq, -⟩)
    · exact ⟨fields, hfields, .inl ⟨_, hfalse, by decide⟩⟩
    · exact ⟨fields, hfields, .inr herror⟩
    · exact ⟨fields, hfields, .inl ⟨v, hv, heq⟩⟩

/-- The result says accepted when the search finds nothing. -/
theorem buildCommandResult_accepted (operation deviceName : String) (functionCode address : Int)
    (response value readValue objectsCount : Json) :
    (buildCommandResult operation deviceName functionCode address response value readValue
      objectsCount).get "device_accepted" = .ok (.bool (findResponseError response).isNone) := rfl

/-- The search reports an error, and the result says that the device did not accept, for exactly the
    failed responses. -/
def Classified (response : Json) : Prop :=
  ((findResponseError response).isSome = true ↔ Failed response) ∧
    ∀ operation deviceName functionCode address value readValue objectsCount, ∃ accepted,
      (buildCommandResult operation deviceName functionCode address response value readValue
        objectsCount).get "device_accepted" = .ok (.bool accepted) ∧
      (accepted = true ↔ ¬ Failed response)

/-- A response is classified right exactly when there is none, or it reports a failure, or a `None`
    is in it just when a `success` equals `False` without being `False`. -/
theorem classified_iff (response : Json) :
    Classified response ↔
      response = .null ∨ Reported response ∨ (Within .null response ↔ ZeroSuccess response) := by
  have hfound := findResponseError_iff response
  have hfailed := failed_iff response
  have hsearch : ((findResponseError response).isSome = true ↔ Failed response) ↔
      response = .null ∨ Reported response ∨ (Within .null response ↔ ZeroSuccess response) := by
    rw [hfound, hfailed]
    by_cases hreported : Reported response
    · simp only [hreported, or_true, true_or]
    · by_cases hnone : response = .null
      · have hwithin : Within .null Json.null := .here
        rw [hnone]
        simp [hwithin]
      · simp only [hreported, hnone, or_false, false_or]
  rw [← hsearch]
  constructor
  · exact And.left
  · intro h
    refine ⟨h, ?_⟩
    intro operation deviceName functionCode address value readValue objectsCount
    refine ⟨_, buildCommandResult_accepted operation deviceName functionCode address response value
      readValue objectsCount, ?_⟩
    rw [← h, Option.isNone_iff_eq_none, Option.isSome_iff_ne_none, not_not]

/-- A write that the device took, answered with a field that is `None`. -/
def acceptedWrite : Json := .obj [("success", .bool true), ("message", .null)]

/-- A write that was accepted counts as failed. -/
theorem acceptedWrite_misclassified : ¬ Classified acceptedWrite := by
  intro h
  obtain hnull | ⟨fields, hfields, hfails⟩ := h.1.mp (by decide)
  · cases hnull
  · rw [acceptedWrite, within_obj] at hfields
    obtain hsame | ⟨key, w, hmem, hw⟩ := hfields
    · -- the dictionary itself reports success and no error
      obtain rfl := Json.obj.inj hsame
      obtain ⟨v, hv, heq⟩ | herror := hfails
      · obtain rfl := Option.some.inj hv
        exact absurd heq (by decide)
      · have htruthy : Json.null.truthy = true := herror
        cases htruthy
    · -- and its values are no dictionaries
      simp only [List.mem_cons, Prod.mk.injEq, List.not_mem_nil, or_false] at hmem
      obtain ⟨-, rfl⟩ | ⟨-, rfl⟩ := hmem <;> cases hw

end Novena.RpcHandler
