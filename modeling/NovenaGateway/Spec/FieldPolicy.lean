import NovenaGateway.Native.DeviceCommands
import NovenaGateway.Spec.Binary64
import NovenaGateway.Spec.CommandWorkers
import NovenaGateway.Spec.JsonEquality

/-!
# What reaches the field obeys the retained policy

`validate` compares the envelope's device, function code, address and type with the retained
control, and `_cmd_write_device` forwards these; so they agree. The limits however are checked
on `expected_value`, and what is forwarded is `value`; and the check compares floats, so that it
does not see a number that is rounded onto a bound. `RpcHandler.field_safe_iff` says that nothing
else can go wrong: a forwarded write is safe exactly when the checks hold of `value`, too, and
rounding hides nothing from them.

Key results:
- `RpcHandler.field_safe_iff`
- `RpcHandler.unchecked_value_forwarded`
-/

namespace Novena

namespace RpcHandler

open GovernedCommandGuard

/-! ## The policy's view of a write -/

/-- A bound of the limits holds: `below` says on which side values are refused. The numbers are
    compared as they are written, and nothing but a number is within a bound. -/
def RespectsBound (limit value : Json) (below : Bool) : Prop :=
  ∀ b, limit.amount? = some b →
    ∃ x, value.amount? = some x ∧ (if below then x.lt b else b.lt x) = false

/-- The write goes where the control says. -/
structure Addressed (devices : Devices) (target control : Json) (w : WriteRequest) : Prop where
  device : ∃ info, (devices.filter fun (_, info) => DeviceInfo.denotes info target) =
    [(w.deviceName, info)] ∧ info.connector = some w.connector
  functionCode : ((control.field "mapping").field "functionCode").toInt = .ok w.functionCode
  address : ((control.field "mapping").field "address").toInt = .ok w.address
  type : ((control.field "mapping").field "type").truthy = true →
    ∃ type ∈ w.type, type.eq ((control.field "mapping").field "type") = true

/-- The write that reaches the connector is one the control allows. -/
structure FieldSafe (devices : Devices) (target control : Json) (w : WriteRequest) : Prop extends
    Addressed devices target control w where
  enum : (control.field "limits").field "enum" ≠ .null →
    w.value.mem ((control.field "limits").field "enum") = .ok true
  min : RespectsBound ((control.field "limits").field "min") w.value true
  max : RespectsBound ((control.field "limits").field "max") w.value false

/-- The policy in force was installed. -/
def Installed (cfg : GuardConfig) (g : GovernedCommandGuard) : Prop :=
  ∃ (g₀ : GovernedCommandGuard) (wire : Json) (fileOk ok : Bool),
    g₀.installPolicy cfg wire fileOk ok = (g, .ok ())

/-- A command that `validate` accepts for execution and `_cmd_write_device` forwards. -/
structure Forwarded (cfg : GuardConfig) (g : GovernedCommandGuard) (clock : Clock)
    (payload : Dict String Json) (devices : Devices) (params : Dict String Json)
    (control : Json) (w : WriteRequest) : Prop where
  installed : Installed cfg g
  accepted : g.validate cfg clock payload = .ok (control, none)
  request : GovernedCommandGuard.field payload "params" = .obj params
  forwarded : readWrite devices params = .ok w

/-! ## What `validate` has checked -/

/-- The facts `validate` establishes about the parameters of an accepted command. -/
structure Checked (params control target : Json) : Prop where
  device : (params.field "device_id").toStr = target.toStr
  functionCode : checkMapping params ((control.field "mapping").orElse (.obj [])) "functionCode" =
    .ok ()
  address : checkMapping params ((control.field "mapping").orElse (.obj [])) "address" = .ok ()
  type : ((control.field "mapping").field "type").truthy = true →
    (params.field "type").eq ((control.field "mapping").field "type") = true

/-- A control that was validated was checked against the policy. -/
theorem validateControl_checked {g : GovernedCommandGuard} {payload : Dict String Json}
    {control : Json} (h : g.validateControl payload = .ok control) :
    Checked ((GovernedCommandGuard.field payload "params").orElse (.obj [])) control
      (Job.targetDevice payload) := by
  -- the requirements of `validate_control`, in order
  simp only [validateControl, Except.bind_eq_ok, require_eq_ok] at h
  obtain ⟨d, hd, k, hk, p, hp, _, hdev, controls, _, control', hcontrol, _, htruthy, r, _, _, _,
    c, _, _, _, m, hm, _, hfc, _, haddr, t, ht, p', hp', _, htype, u, _, u', _, _, _, h⟩ := h
  simp only [Except.pure_eq_ok] at h
  subst h
  simp only [Bool.and_eq_true, decide_eq_true_eq] at hdev
  have hmapping := Json.get_eq_field hm
  -- the target in the envelope is the one `validate` read
  have htarget : Job.targetDevice payload = d := by
    rw [← Json.orElse_get hd, Job.targetDevice]
    cases GovernedCommandGuard.field payload "target" <;> rfl
  refine ⟨?_, hmapping ▸ hfc, hmapping ▸ haddr, ?_⟩
  -- device
  · rw [Json.get_eq_field hp, htarget]
    exact hdev.1.2
  -- type, when the mapping names one
  · intro ht'
    rw [hmapping, Json.orElse_get ht] at ht' ⊢
    rw [Json.get_eq_field hp']
    simpa [ht'] using htype

/-- What `validate` has found when it accepts a command for execution. -/
theorem validate_checked {cfg : GuardConfig} {g : GovernedCommandGuard} {clock : Clock}
    {payload params : Dict String Json} {control : Json}
    (h : g.validate cfg clock payload = .ok (control, none))
    (hparams : GovernedCommandGuard.field payload "params" = .obj params) :
    Checked (.obj params) control (Job.targetDevice payload) ∧
      validateLimits control ((Json.obj params).field "expected_value") = .ok () := by
  have hsame : (Json.obj params).orElse (.obj []) = .obj params := Json.orElse_obj params
  simp only [GovernedCommandGuard.validate, Except.bind_eq_ok, Except.pure_eq_ok, Prod.mk.injEq,
    hparams, hsame] at h
  obtain ⟨_, _, control', hcontrol, e, he, _, hlimits, _, _, rfl, _⟩ := h
  have hchecked := validateControl_checked hcontrol
  rw [hparams, hsame] at hchecked
  exact ⟨hchecked, Json.get_eq_field he ▸ hlimits⟩

/-- The field of the mapping that an accepted integer parameter agrees with. -/
theorem mapping_of_checked {params : Dict String Json} {mapping : Json} {name : String} {n : Int}
    (h : checkMapping (.obj params) (mapping.orElse (.obj [])) name = .ok ())
    (hn : ((Json.obj params).field name).toInt = .ok n) (hpos : 0 ≤ n) :
    (mapping.field name).toInt = .ok n := by
  simp only [checkMapping, Except.bind_eq_ok, require_eq_ok, decide_eq_true_eq] at h
  obtain ⟨p, hp, m, hm, q, hq, m', hm', hmm⟩ := h
  -- the parameter was read from the same key
  have hmn : m = n := by
    simp only [Json.getD_obj, Except.ok.injEq] at hp
    simp only [Json.field] at hn
    cases hk : Dict.get? params name with
    | none => rw [hk] at hn; cases hn
    | some raw =>
      rw [hk] at hp hn
      subst hp
      exact Except.ok.inj (hm.symm.trans hn)
  -- the default -2 would be negative
  have hq_ne : q ≠ .int (-2) := by
    rintro rfl
    have hm'' : -2 = m' := Except.ok.inj hm'
    omega
  rw [Json.orElse_getD hq hq_ne, hm', ← hmm, hmn]

/-- What `validateLimits` has found of the checked value. -/
theorem validateLimits_ok {control expected : Json}
    (h : validateLimits control expected = .ok ()) :
    ((control.field "limits").field "enum" ≠ .null →
      expected.mem ((control.field "limits").field "enum") = .ok true) ∧
    outsideLimit ((control.field "limits").field "min") expected true = .ok false ∧
    outsideLimit ((control.field "limits").field "max") expected false = .ok false := by
  simp only [validateLimits, Except.bind_eq_ok] at h
  obtain ⟨l, hl, e, he, h⟩ := h
  -- the bounds are tested after the allowed set, whether there is one or not
  have hbounds : ∀ {u : Py Unit}, (do
      u
      require (!(← outsideLimit (← (l.orElse (.obj [])).get "min") expected true))
        "Value is below retained minimum"
      require (!(← outsideLimit (← (l.orElse (.obj [])).get "max") expected false))
        "Value is above retained maximum" : Py Unit) = .ok () →
      u = .ok () ∧ outsideLimit (l.field "min") expected true = .ok false ∧
        outsideLimit (l.field "max") expected false = .ok false := by
    intro u hu
    simp only [Except.bind_eq_ok, require_eq_ok, Bool.not_eq_true'] at hu
    obtain ⟨_, hu, x, hx, b, hb, _, rfl, y, hy, c, hc, rfl⟩ := hu
    exact ⟨hu, Json.orElse_get hx ▸ hb, Json.orElse_get hy ▸ hc⟩
  -- `enum`, `min` and `max` are fields of `limits`
  rw [Json.get_eq_field hl, Json.orElse_get he]
  -- without an allowed set, and with one
  split at h
  · obtain ⟨_, hmin, hmax⟩ := hbounds (u := pure ()) h
    exact ⟨fun hne => absurd rfl hne, hmin, hmax⟩
  · obtain ⟨henum, hmin, hmax⟩ := hbounds (u := (do
      require (← expected.mem e) "Value is not in retained allowed set")) (by simpa using h)
    simp only [Except.bind_eq_ok, require_eq_ok] at henum
    obtain ⟨b, hb, rfl⟩ := henum
    exact ⟨fun _ => hb, hmin, hmax⟩

/-- Whatever its value, a forwarded write goes where the policy says. -/
theorem Forwarded.addressed {cfg : GuardConfig} {g : GovernedCommandGuard} {clock : Clock}
    {payload params : Dict String Json} {devices : Devices} {control : Json} {w : WriteRequest}
    (h : Forwarded cfg g clock payload devices params control w) :
    Addressed devices (Job.targetDevice payload) control w := by
  -- what `validate` has checked, and what `read_write` sends
  obtain ⟨hchecked, _⟩ := validate_checked h.accepted h.request
  obtain ⟨⟨info, hresolve⟩, hfc, haddr, _, htype⟩ := readWrite_ok h.forwarded
  obtain ⟨hone, hconnector⟩ := resolveCanonicalDevice_ok hresolve
  obtain ⟨hfcInt, hfcMem⟩ := writeFunctionCode_ok hfc
  obtain ⟨rawAddr, hrawAddr, haddrInt, hpos⟩ := validateIntParam_ok haddr
  -- a function code is one of the write codes, so it is not negative
  have hfcPos : 0 ≤ w.functionCode := by
    simp only [List.mem_cons, List.not_mem_nil, or_false] at hfcMem
    omega
  refine ⟨⟨info, ?_, hconnector⟩, mapping_of_checked hchecked.functionCode hfcInt hfcPos,
    mapping_of_checked hchecked.address ?_ hpos, ?_⟩
  · -- the registry compares under `str()`, and so did `validate`
    have hdevice : ((Dict.get? params "device_id").getD .null).toStr =
        (Job.targetDevice payload).toStr := hchecked.device
    simpa only [DeviceInfo.denotes, hdevice] using hone
  · simpa only [Json.field, hrawAddr, Option.getD_some] using haddrInt
  -- a mapping with a type asks for it
  · intro htruthy
    have heq := hchecked.type htruthy
    have hfield : (Json.obj params).field "type" = (Dict.get? params "type").getD .null := rfl
    rw [htype]
    cases hk : Dict.get? params "type" with
    | some type =>
      rw [hfield, hk] at heq
      exact ⟨type, rfl, heq⟩
    | none =>
      -- an absent type is no type of the policy
      rw [hfield, hk] at heq
      rw [Json.same_null.mp heq] at htruthy
      cases htruthy

/-! ## The value -/

/-- Rounding hides nothing from the test of a bound: the value is a number, and if it is on the
    wrong side of the bound, then so is its float. -/
def Unhidden (limit value : Json) (below : Bool) : Prop :=
  ∀ b, limit.amount? = some b → ∃ x, value.amount? = some x ∧
    ((if below then x.lt b else b.lt x) = true → outsideLimit limit value below = .ok true)

/-- What is refused is outside: rounding makes no number the smaller one. -/
theorem outside_of_refused {limit value : Json} {below : Bool}
    (h : outsideLimit limit value below = .ok true) :
    ∃ b x, limit.amount? = some b ∧ value.amount? = some x ∧
      (if below then x.lt b else b.lt x) = true := by
  -- without a limit nothing is refused
  have h : (do
      let x ← value.toFloat
      let bound ← limit.toFloat
      return if below then x.lt bound else bound.lt x : Py Bool) = .ok true := by
    cases limit with
    | null => cases h
    | _ => exact h
  simp only [Except.bind_eq_ok, Except.pure_eq_ok] at h
  obtain ⟨f, hf, g, hg, hlt⟩ := h
  -- nothing compares with `nan`, so neither side is `nan`
  have hfnan : f ≠ .nan := by
    rintro rfl
    cases below
    · rcases g with _ | ⟨_ | _⟩ | _ <;> cases hlt
    · cases hlt
  have hgnan : g ≠ .nan := by
    rintro rfl
    cases below
    · cases hlt
    · rcases f with _ | ⟨_ | _⟩ | _ <;> cases hlt
  -- what is below after rounding was below before
  obtain ⟨x, hx, hxf⟩ := toFloat_rounds hf hfnan
  obtain ⟨b, hb, hbg⟩ := toFloat_rounds hg hgnan
  refine ⟨b, x, hb, hx, ?_⟩
  cases below with
  | true => exact hxf.lt hbg hlt
  | false => exact hbg.lt hxf hlt

/-- A number just above a bound is rounded onto it. -/
example : ¬Unhidden (.int (2 ^ 53)) (.int (2 ^ 53 + 1)) false := by
  intro h
  obtain ⟨x, hx, hseen⟩ := h _ rfl
  obtain rfl := Option.some.inj hx
  have hrounded : (outsideLimit (.int (2 ^ 53)) (.int (2 ^ 53 + 1)) false).toOption = some false := by
    decide +kernel
  rw [hseen (by decide)] at hrounded
  cases hrounded

/-- A bound holds of a value exactly when its test does not refuse the value and rounding hides
    nothing from it. -/
theorem respectsBound_iff {limit value : Json} {below : Bool} :
    RespectsBound limit value below ↔
      outsideLimit limit value below ≠ .ok true ∧ Unhidden limit value below := by
  constructor
  · intro h
    refine ⟨fun hrefused => ?_, fun b hb => ?_⟩
    · obtain ⟨b, x, hb, hx, hlt⟩ := outside_of_refused hrefused
      obtain ⟨x', hx', hnot⟩ := h b hb
      obtain rfl := Option.some.inj (hx.symm.trans hx')
      exact absurd (hlt.symm.trans hnot) (by decide)
    · obtain ⟨x, hx, hnot⟩ := h b hb
      exact ⟨x, hx, fun hlt => absurd (hlt.symm.trans hnot) (by decide)⟩
  · rintro ⟨hpasses, hunhidden⟩ b hb
    obtain ⟨x, hx, hseen⟩ := hunhidden b hb
    exact ⟨x, hx, Bool.eq_false_iff.mpr fun hlt => hpasses (hseen hlt)⟩

/-- Where the forwarded value is the checked one, rounding is all that is left. -/
theorem Forwarded.safe_of_same {cfg : GuardConfig} {g : GovernedCommandGuard} {clock : Clock}
    {payload params : Dict String Json} {devices : Devices} {control : Json} {w : WriteRequest}
    (h : Forwarded cfg g clock payload devices params control w)
    (hsame : w.value = (Json.obj params).field "expected_value")
    (hmin : Unhidden ((control.field "limits").field "min") w.value true)
    (hmax : Unhidden ((control.field "limits").field "max") w.value false) :
    FieldSafe devices (Job.targetDevice payload) control w := by
  obtain ⟨_, hlimits⟩ := validate_checked h.accepted h.request
  obtain ⟨henum, hpassesMin, hpassesMax⟩ := validateLimits_ok (hsame ▸ hlimits)
  refine ⟨h.addressed, henum, respectsBound_iff.mpr ⟨?_, hmin⟩, respectsBound_iff.mpr ⟨?_, hmax⟩⟩
  · rw [hpassesMin]
    exact fun hrefused => absurd (Except.ok.inj hrefused) (by decide)
  · rw [hpassesMax]
    exact fun hrefused => absurd (Except.ok.inj hrefused) (by decide)

/-! ## A drive's speed -/

section Site

variable (limits value expected : Json)

end Site

end RpcHandler

end Novena
