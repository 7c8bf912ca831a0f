import NovenaGateway.ForStd.Decimal
import NovenaGateway.Native.DeviceReads
import NovenaGateway.Native.RpcRequest

/-!
# A read stays a read

The requested type is written into the parameters as it comes, so that it can hold fields of its
own. The Modbus connector's parser reads the fields from the front and the last one of a key
counts, and behind the type come the function code, the count and the address that were checked.

Key results:
- `RpcHandler.read_stays_read`
-/

namespace Novena

/-! ## Numbers as texts -/

/-- A digit is read as it is written. -/
theorem digitValue?_digitChar : ∀ d < 10, digitValue? d.digitChar = some d := by decide

/-- And is no space. -/
theorem isSpace_digitChar : ∀ d < 10, isSpace d.digitChar = false := by decide

/-- A text of digits has nothing to strip. -/
theorem strip_digits {ds : List Nat} (hds : ∀ d ∈ ds, d < 10) :
    strip (ds.map Nat.digitChar) = ds.map Nat.digitChar := by
  have hstay : ∀ {es : List Nat}, (∀ d ∈ es, d < 10) →
      (es.map Nat.digitChar).dropWhile isSpace = es.map Nat.digitChar := by
    intro es hes
    cases es with
    | nil => rfl
    | cons d es =>
      rw [List.map_cons, List.dropWhile_cons_of_neg]
      rw [isSpace_digitChar d (hes d List.mem_cons_self)]
      decide
  have hreverse : ∀ d ∈ ds.reverse, d < 10 := fun d hd => hds d (List.mem_reverse.mp hd)
  rw [strip, hstay hds, ← List.map_reverse, hstay hreverse, ← List.map_reverse,
    List.reverse_reverse]

/-- And no sign. -/
theorem sign_digits {ds : List Nat} (hds : ∀ d ∈ ds, d < 10) :
    sign (ds.map Nat.digitChar) = (false, ds.map Nat.digitChar) := by
  have hplain : ∀ d < 10, d.digitChar ≠ '-' ∧ d.digitChar ≠ '+' := by decide
  cases ds with
  | nil => rfl
  | cons d ds =>
    obtain ⟨hminus, hplus⟩ := hplain d (hds d List.mem_cons_self)
    rw [List.map_cons]
    unfold sign
    split
    · next h => exact absurd (List.cons.inj h).1 hminus
    · next h => exact absurd (List.cons.inj h).1 hplus
    · rfl

/-- A run of digits is read to its end. -/
theorem digitRun_digits {ds : List Nat} (hds : ∀ d ∈ ds, d < 10) (prev : Bool) (acc : List Nat) :
    digitRun (ds.map Nat.digitChar) prev acc = (acc.reverse ++ ds, []) := by
  induction ds generalizing prev acc with
  | nil => simp [digitRun]
  | cons d ds ih =>
    rw [List.map_cons]
    unfold digitRun
    rw [digitValue?_digitChar d (hds d List.mem_cons_self)]
    dsimp only
    rw [ih (fun e he => hds e (List.mem_cons_of_mem d he)), List.reverse_cons, List.append_assoc]
    rfl

/-- What is read from the text of a number is that number. -/
theorem intOfStr_repr {n : Nat} {m : Int} (h : intOfStr (toString n) = some m) : m = n := by
  obtain ⟨ds, hds, hne, htext, hvalue⟩ := Nat.exists_toDigits n
  have hchars : (toString n).toList = ds.map Nat.digitChar := by rw [← htext]; exact Nat.toList_repr
  unfold intOfStr at h
  rw [hchars, strip_digits hds] at h
  dsimp only at h
  rw [sign_digits hds] at h
  dsimp only at h
  rw [digitRun_digits hds] at h
  cases ds with
  | nil => exact absurd rfl hne
  | cons d ds =>
    rw [List.reverse_nil, List.nil_append] at h
    dsimp only at h
    split at h
    · rw [← Option.some.inj h, if_neg (by decide), ofDigits, hvalue]
    · cases h

/-- A character that is no digit is not in the text of a number. -/
theorem notMem_repr (n : Nat) {c : Char} (hc : c.isDigit = false) : c ∉ (toString n).toList := by
  intro hmem
  rw [show (toString n).toList = Nat.toDigits 10 n from Nat.toList_repr] at hmem
  have hdigit := Nat.isDigit_of_mem_toDigits (by decide) (by decide) hmem
  rw [hc] at hdigit
  cases hdigit

/-! ## Fields -/

namespace RpcRequest

/-- A text has at least one part. -/
theorem splitChar_ne_nil (c : Char) (cs : List Char) : splitChar c cs ≠ [] := by
  cases cs with
  | nil => exact List.cons_ne_nil _ _
  | cons d cs =>
    unfold splitChar
    split
    · exact List.cons_ne_nil _ _
    · split
      · exact List.cons_ne_nil _ _
      · exact List.cons_ne_nil _ _

/-- A separator cuts the text in two, which are split apart. -/
theorem splitChar_append (c : Char) (cs ds : List Char) :
    splitChar c (cs ++ c :: ds) = splitChar c cs ++ splitChar c ds := by
  induction cs with
  | nil =>
    cases h : splitChar c ds with
    | nil => exact absurd h (splitChar_ne_nil c ds)
    | cons part parts => simp [splitChar, h]
  | cons d cs ih =>
    rw [List.cons_append, splitChar, splitChar, ih]
    cases h : splitChar c cs with
    | nil => exact absurd h (splitChar_ne_nil c cs)
    | cons part parts =>
      rw [List.cons_append]
      dsimp only
      split <;> rfl

/-- Without the separator it is the only one. -/
theorem splitChar_of_notMem {c : Char} {cs : List Char} (h : c ∉ cs) : splitChar c cs = [cs] := by
  induction cs with
  | nil => rfl
  | cons d cs ih =>
    rw [List.mem_cons, not_or] at h
    rw [splitChar, ih h.2]
    dsimp only
    rw [if_neg (Ne.symm h.1)]

/-- A field that is one of the three numbers is written, if it can be read. -/
theorem reservedField_number {params params' : Dict String Json} {key : String} {n : Nat}
    (hkey : key ∈ ["functionCode", "objectsCount", "address"])
    (h : reservedField params (key.toList ++ '=' :: (toString n).toList) = .ok params') :
    params' = params.set key (.int n) := by
  have hplain : '=' ∉ key.toList := by
    simp only [List.mem_cons, List.not_mem_nil, or_false] at hkey
    obtain rfl | rfl | rfl := hkey <;> decide
  have hne : key.toList ≠ [] := by
    simp only [List.mem_cons, List.not_mem_nil, or_false] at hkey
    obtain rfl | rfl | rfl := hkey <;> decide
  have hdigits : (toString n).toList ≠ [] := by
    rw [show (toString n).toList = Nat.toDigits 10 n from Nat.toList_repr]
    exact Nat.toDigits_ne_nil
  have hparts : splitChar '=' (key.toList ++ '=' :: (toString n).toList) =
      [key.toList, (toString n).toList] := by
    rw [splitChar_append, splitChar_of_notMem hplain, splitChar_of_notMem (notMem_repr n (by decide))]
    rfl
  simp only [reservedField, hparts, hne, hdigits, or_self, if_false, String.ofList_toList, hkey,
    if_true] at h
  split at h
  · next m hm => rw [← Except.ok.inj h, intOfStr_repr hm]
  · cases h

/-- The text of such a field. -/
def numberField (key : String) (n : Nat) : List Char := key.toList ++ '=' :: (toString n).toList

/-- The number fields have no separator. -/
theorem notMem_numberField {key : String} (hkey : key ∈ ["functionCode", "objectsCount", "address"])
    (n : Nat) : ';' ∉ numberField key n := by
  have hplain : ';' ∉ key.toList := by
    simp only [List.mem_cons, List.not_mem_nil, or_false] at hkey
    obtain rfl | rfl | rfl := hkey <;> decide
  simp only [numberField, List.mem_append, List.mem_cons, not_or]
  exact ⟨hplain, by decide, notMem_repr n (by decide)⟩

/-- Whatever comes before them, the last function code, count and address are the ones read. -/
theorem formReservedRpcParams_last {cs : List Char} {functionCode objectsCount address : Nat}
    {fields : Dict String Json}
    (h : formReservedRpcParams (cs ++ ';' :: (numberField "functionCode" functionCode ++ ';' ::
      (numberField "objectsCount" objectsCount ++ ';' ::
        (numberField "address" address ++ [';'])))) = .ok fields) :
    Dict.get? fields "functionCode" = some (.int functionCode) ∧
      Dict.get? fields "objectsCount" = some (.int objectsCount) ∧
      Dict.get? fields "address" = some (.int address) := by
  have hcode : ';' ∉ numberField "functionCode" functionCode := notMem_numberField (by decide) _
  have hcount : ';' ∉ numberField "objectsCount" objectsCount := notMem_numberField (by decide) _
  have haddress : ';' ∉ numberField "address" address := notMem_numberField (by decide) _
  unfold formReservedRpcParams at h
  rw [splitChar_append, splitChar_append, splitChar_append, splitChar_append,
    splitChar_of_notMem hcode, splitChar_of_notMem hcount, splitChar_of_notMem haddress] at h
  simp only [List.foldlM_append, List.foldlM_cons, List.foldlM_nil, Except.bind_eq_ok,
    Except.pure_eq_ok, exists_eq_right] at h
  obtain ⟨before, _, params, hparams, params', hparams', params'', hparams'', hlast⟩ := h
  obtain rfl := reservedField_number (by decide) hparams
  obtain rfl := reservedField_number (by decide) hparams'
  obtain rfl := reservedField_number (by decide) hparams''
  -- what is behind the last semicolon is empty
  obtain rfl := Except.ok.inj hlast
  refine ⟨?_, ?_, Dict.get?_set_self _ _ _⟩
  · rw [Dict.get?_set_ne _ _ (by decide), Dict.get?_set_ne _ _ (by decide), Dict.get?_set_self]
  · rw [Dict.get?_set_ne _ _ (by decide), Dict.get?_set_self]

/-- A request with the reserved method `get` for a device, if it is parsed. -/
theorem init_get {device : String} {id timeout : Json} {text : String} {request : RpcRequest}
    (h : init (.obj [("device", .str device),
      ("data", .obj [("id", id), ("method", .str "get"), ("params", .str text)]),
      ("timeout", timeout)]) = .ok request) :
    request.rpcType = .reserved ∧ request.method = .str "get" ∧ request.value = .null ∧
      ∃ fields, request.params = .obj fields ∧ formReservedRpcParams text.toList = .ok fields := by
  have hfill : (fillReserved (.str "get") (.str text)).map (fun filled =>
      (⟨.reserved, .str "get", filled.1, filled.2, timeout, id, .str device⟩ : RpcRequest)) =
      .ok request := h
  simp only [Except.map_eq_ok] at hfill
  obtain ⟨⟨params, value⟩, hfill, rfl⟩ := hfill
  have hget : (Json.str "get").eq (.str "get") = true := by decide
  have hset : (Json.str "get").eq (.str "set") = false := by decide
  simp only [fillReserved, hget, hset, if_true] at hfill
  split at hfill
  · cases hfill
  · simp only [Bool.false_eq_true, if_false, Except.bind_eq_ok, Except.pure_eq_ok] at hfill
    obtain ⟨fields, hfields, hfilled⟩ := hfill
    obtain ⟨rfl, rfl⟩ := Prod.mk.inj hfilled
    exact ⟨rfl, rfl, rfl, fields, rfl, hfields⟩

end RpcRequest

namespace RpcHandler

/-! ## Accepted reads -/

/-- The checks of an accepted read, one fact for each of them. -/
theorem readRead_ok {devices : Devices} {params : Dict String Json} {r : ReadRequest}
    (h : readRead devices params = .ok r) :
    readFunctionCode params = .ok r.functionCode ∧
      validateIntParam params "address" 0 none = .ok r.address ∧
      readObjectsCount params = .ok r.objectsCount ∧ r.type = Dict.get? params "type" := by
  simp only [readRead] at h
  split at h
  · cases h
  · simp only [Except.bind_eq_ok, Except.pure_eq_ok] at h
    obtain ⟨fc, hfc, address, haddress, count, hcount, timeout, _, ⟨name, connector⟩, _, rfl⟩ := h
    exact ⟨hfc, haddress, hcount, rfl⟩

/-- An accepted function code is what `int()` makes of it, and reads. -/
theorem readFunctionCode_ok {params : Dict String Json} {n : Int}
    (h : readFunctionCode params = .ok n) :
    ((Dict.get? params "functionCode").getD .null).toInt = .ok n ∧ n ∈ [1, 2, 3, 4] := by
  simp only [readFunctionCode] at h
  split at h
  · cases h
  · simp only [Except.bind_eq_ok] at h
    obtain ⟨m, hm, h⟩ := h
    split at h
    · next hmem =>
      obtain rfl := Except.ok.inj h
      exact ⟨hm, hmem⟩
    · cases h

/-- A count that is read is at least one. -/
theorem readObjectsCount_ok {params : Dict String Json} {n : Int}
    (h : readObjectsCount params = .ok n) : 1 ≤ n := by
  unfold readObjectsCount at h
  split at h
  · exact (validateIntParam_ok h).choose_spec.2.2
  · obtain rfl := Except.ok.inj h
    exact Int.le_refl 1

/-- Where the text for the parser is built, its last three fields are the numbers of the read. -/
theorem modbusParams_toList {r : ReadRequest} {functionCode objectsCount address : Nat}
    (hcode : r.functionCode = functionCode) (hcount : r.objectsCount = objectsCount)
    (haddress : r.address = address) :
    r.modbusParams.toList = ("type=".toList ++ r.dataType.toList) ++ ';' ::
      (RpcRequest.numberField "functionCode" functionCode ++ ';' ::
        (RpcRequest.numberField "objectsCount" objectsCount ++ ';' ::
          (RpcRequest.numberField "address" address ++ [';']))) := by
  have htext : ∀ n : Nat, toString (n : Int) = toString n := fun _ => rfl
  simp [ReadRequest.modbusParams, hcode, hcount, haddress, String.toList_append, htext,
    RpcRequest.numberField]

/-- The content of a read, field by field. -/
theorem modbusContent_eq (r : ReadRequest) :
    r.modbusContent = .ok (.obj [("device", .str r.deviceName),
      ("data", .obj [("id", (Dict.get? r.rpcParams "rpc_id").getD (.int 1)),
        ("method", .str "get"), ("params", .str r.modbusParams)]),
      ("timeout", (Dict.get? r.rpcParams "timeout").getD defaultTimeout)]) := rfl

/-- Whatever type is asked for, an accepted read of a device of the Modbus connector raises in the
    connector's parser or is parsed as the `get` of the function code, the address and the count
    that were checked, with no value. -/
theorem read_stays_read {devices : Devices} {getType : Nat → Json} {params : Dict String Json}
    {connector : Nat} {content : Json}
    (h : cmdReadDevice devices getType params = .ok (connector, content))
    (hmodbus : isModbus (getType connector) = true) {request : RpcRequest}
    (hparsed : RpcRequest.init content = .ok request) :
    ∃ r : ReadRequest, readRead devices params = .ok r ∧ r.functionCode ∈ [1, 2, 3, 4] ∧
      request.rpcType = .reserved ∧ request.method = .str "get" ∧ request.value = .null ∧
      ∃ fields, request.params = .obj fields ∧
        Dict.get? fields "functionCode" = some (.int r.functionCode) ∧
        Dict.get? fields "objectsCount" = some (.int r.objectsCount) ∧
        Dict.get? fields "address" = some (.int r.address) := by
  simp only [cmdReadDevice, Except.bind_eq_ok] at h
  obtain ⟨r, hread, h⟩ := h
  have hconnector : connector = r.connector ∧ r.modbusContent = .ok content := by
    split at h
    · split at h
      · cases h
      · simp only [Except.bind_eq_ok, Except.pure_eq_ok] at h
        obtain ⟨modbus, hcontent, h⟩ := h
        obtain ⟨rfl, rfl⟩ := Prod.mk.inj h
        exact ⟨rfl, hcontent⟩
    · next hother =>
      obtain ⟨rfl, _⟩ := Prod.mk.inj (Except.ok.inj h)
      exact absurd hmodbus hother
  obtain ⟨rfl, hcontent⟩ := hconnector
  obtain ⟨hcode, haddress, hcount, _⟩ := readRead_ok hread
  have hmem := (readFunctionCode_ok hcode).2
  -- the three numbers are not negative
  obtain ⟨fc, hfc⟩ : ∃ n : Nat, r.functionCode = n := by
    apply Int.eq_ofNat_of_zero_le
    simp only [List.mem_cons, List.not_mem_nil, or_false] at hmem
    omega
  obtain ⟨count, hcount⟩ : ∃ n : Nat, r.objectsCount = n := by
    have hone := readObjectsCount_ok hcount
    exact Int.eq_ofNat_of_zero_le (by omega)
  obtain ⟨address, haddress⟩ : ∃ n : Nat, r.address = n := by
    obtain ⟨_, _, _, hzero⟩ := validateIntParam_ok haddress
    exact Int.eq_ofNat_of_zero_le hzero
  rw [modbusContent_eq] at hcontent
  obtain rfl := Except.ok.inj hcontent
  obtain ⟨htype, hmethod, hvalue, fields, hfields, hform⟩ := RpcRequest.init_get hparsed
  rw [modbusParams_toList hfc hcount haddress] at hform
  obtain ⟨hfields1, hfields2, hfields3⟩ := RpcRequest.formReservedRpcParams_last hform
  rw [← hfc] at hfields1
  rw [← hcount] at hfields2
  rw [← haddress] at hfields3
  exact ⟨r, hread, hmem, htype, hmethod, hvalue, fields, hfields, hfields1, hfields2, hfields3⟩

/-- One meter, owned by the Modbus connector. -/
def meterDevices : Devices := [("Meter 1", { deviceId := .int 3, connector := some 0 })]

/-- A read whose type brings the fields of another request along. -/
def smuggledParams : Dict String Json :=
  [("device_name", .str "Meter 1"), ("functionCode", .int 3), ("address", .int 3060),
   ("type", .str "16uint;functionCode=1;objectsCount=9;address=9;value=1")]

/-- The parser takes it, as a read of register 3060. -/
theorem read_stays_read_smuggled : ∃ content request,
    cmdReadDevice meterDevices (fun _ => .str "modbus") smuggledParams = .ok (0, content) ∧
      RpcRequest.init content = .ok request ∧
      ∃ r : ReadRequest, readRead meterDevices smuggledParams = .ok r ∧
        r.functionCode ∈ [1, 2, 3, 4] ∧ request.rpcType = .reserved ∧
        request.method = .str "get" ∧ request.value = .null ∧
        ∃ fields, request.params = .obj fields ∧
          Dict.get? fields "functionCode" = some (.int r.functionCode) ∧
          Dict.get? fields "objectsCount" = some (.int r.objectsCount) ∧
          Dict.get? fields "address" = some (.int r.address) := by
  have haccepted : ((cmdReadDevice meterDevices (fun _ => .str "modbus") smuggledParams).toOption.map
      fun p => (p.1, (RpcRequest.init p.2).toOption.isSome)) = some (0, true) := by decide +kernel
  cases hread : cmdReadDevice meterDevices (fun _ => .str "modbus") smuggledParams with
  | error e =>
    rw [hread] at haccepted
    cases haccepted
  | ok p =>
    obtain ⟨connector, content⟩ := p
    rw [hread] at haccepted
    obtain ⟨rfl, hsome⟩ := Prod.mk.inj (Option.some.inj haccepted)
    cases hinit : RpcRequest.init content with
    | error e =>
      simp only [hinit] at hsome
      cases hsome
    | ok request =>
      exact ⟨content, request, rfl, hinit, read_stays_read hread (by decide) hinit⟩

end RpcHandler

end Novena
