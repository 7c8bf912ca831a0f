import NovenaGateway.ForStd.Except
import NovenaGateway.Native.ModbusValues
import NovenaGateway.Native.UplinkReads

/-!
# What a Modbus poll reports is what the registers hold

A wide range of addresses is read in chunks of a size the device can answer, and decoded in blocks
of the size of a value. The result does not depend on the first: the values of a poll are those of
the blocks, each one read on its own. This needs the tags of a section to be different, and for bits
that the chunks are whole bytes: a response brings bits in whole bytes, and those after the last one
that was asked for are taken for the next address. A chunk that fails is left out, and the registers
after it are taken for those at its address.

Key results:
- `Modbus.Utils.parseWideRangeRequest_covers`: the requests of a range
- `Modbus.convertPoll_readSlaveData`: a poll, read and converted
- `Modbus.convert_polls`: several polls in one batch
- `Modbus.processWideRangeResponse_missing`: failed chunks
-/

namespace Novena.Modbus

open Pieces

variable {R V : Type}

namespace Utils

/-! ## The requests of a range -/

/-- A request for as many registers as a piece has. -/
def request (p : Int × Nat) : Int × Int := (p.1, p.2)

/-- With a positive bound the loop makes the pieces of the range. -/
theorem chunkLoop_eq {size : Nat} (hsize : 0 < size) {fuel n : Nat} (hfuel : n ≤ fuel)
    (start : Int) :
    chunkLoop size fuel start n = some ((pieces size start n).map request) := by
  induction fuel generalizing start n with
  | zero =>
    have hzero : n = 0 := by omega
    rw [hzero, pieces_zero hsize]
    rfl
  | succ fuel ih =>
    rw [chunkLoop]
    cases Nat.eq_zero_or_pos n with
    | inl hzero =>
      rw [if_neg (by omega), hzero, pieces_zero hsize]
      rfl
    | inr hpos =>
      have hchunk : min (size : Int) n = (min size n : Nat) := by omega
      have hrest : (n : Int) - (min size n : Nat) = (n - min size n : Nat) := by omega
      rw [if_pos (by omega)]
      dsimp only
      rw [hchunk, hrest, ih (by omega), pieces_cons hsize hpos]
      rfl

/-- Without one it never ends. -/
theorem chunkLoop_eq_none {size : Int} (hsize : size ≤ 0) (fuel : Nat) (start : Int)
    {remaining : Int} (hremaining : 0 < remaining) :
    chunkLoop size fuel start remaining = none := by
  induction fuel generalizing start remaining with
  | zero => rw [chunkLoop, if_pos hremaining]
  | succ fuel ih =>
    rw [chunkLoop, if_pos hremaining]
    dsimp only
    rw [ih _ (by omega)]
    rfl

/-- More turns change nothing once the loop is over. -/
theorem chunkLoop_mono {size : Int} {fuel fuel' : Nat} (hfuel : fuel ≤ fuel')
    {start remaining : Int} {ranges : List (Int × Int)}
    (h : chunkLoop size fuel start remaining = some ranges) :
    chunkLoop size fuel' start remaining = some ranges := by
  induction fuel generalizing fuel' start remaining ranges with
  | zero =>
    rw [chunkLoop, Option.ite_none_left_eq_some] at h
    cases fuel' with
    | zero => rw [chunkLoop, if_neg h.1, h.2]
    | succ fuel' => rw [chunkLoop, if_neg h.1, h.2]
  | succ fuel ih =>
    obtain ⟨fuel', rfl⟩ : ∃ k, fuel' = k + 1 := ⟨fuel' - 1, by omega⟩
    rw [chunkLoop] at h ⊢
    split at h
    case isTrue hpos =>
      dsimp only at h ⊢
      obtain ⟨rest, hrest, hranges⟩ := Option.map_eq_some_iff.mp h
      rw [if_pos hpos, ih (by omega) hrest, Option.map_some, hranges]
    case isFalse hpos => rw [if_neg hpos, h]

/-- The requests of a range that is not empty. -/
theorem parseWideRangeRequest_eq {address : String} {first last count size : Int}
    (haddress : parseWideRangeAddress address = .ok (first, last))
    (hregisters : 0 < last - first + count) (hsize : 0 < size) {fuel : Nat}
    (hfuel : (last - first + count).toNat ≤ fuel) :
    parseWideRangeRequest fuel address count size =
      some (.ok ((pieces size.toNat first (last - first + count).toNat).map request)) := by
  have hpos : 0 < size.toNat := by omega
  have hcast : ((last - first + count).toNat : Int) = last - first + count := by omega
  rw [parseWideRangeRequest, haddress]
  dsimp only
  rw [if_neg (by omega)]
  split
  · have hloop := chunkLoop_eq hpos hfuel first
    rw [show (size.toNat : Int) = size by omega, hcast] at hloop
    rw [hloop]
    rfl
  · -- all in one piece
    rw [pieces_cons hpos (by omega), Nat.min_eq_right (by omega), Nat.sub_self,
      pieces_zero hpos, List.map_cons, List.map_nil, request, hcast]

/-- When there are requests there is something to read, and the bound is positive. -/
theorem parseWideRangeRequest_pos {address : String} {first last count size : Int}
    (haddress : parseWideRangeAddress address = .ok (first, last)) {fuel : Nat}
    {ranges : List (Int × Int)}
    (h : parseWideRangeRequest fuel address count size = some (.ok ranges)) :
    0 < last - first + count ∧ 0 < size := by
  rw [parseWideRangeRequest, haddress] at h
  dsimp only at h
  split at h
  case isTrue => cases h
  case isFalse hregisters =>
    by_cases hsize : 0 < size
    · omega
    · rw [if_pos (by omega), chunkLoop_eq_none (by omega) fuel first (by omega)] at h
      cases h

/-- The ranges a request is split into are the pieces of the addresses it asks for. -/
theorem parseWideRangeRequest_of_ok {address : String} {first last count size : Int}
    (haddress : parseWideRangeAddress address = .ok (first, last)) {fuel : Nat}
    {ranges : List (Int × Int)}
    (h : parseWideRangeRequest fuel address count size = some (.ok ranges)) :
    ranges = (pieces size.toNat first (last - first + count).toNat).map request := by
  obtain ⟨hregisters, hsize⟩ := parseWideRangeRequest_pos haddress h
  have hall := @parseWideRangeRequest_eq address first last count size haddress hregisters hsize
    (max fuel (last - first + count).toNat) (by omega)
  have hsame : parseWideRangeRequest (max fuel (last - first + count).toNat) address count size =
      some (.ok ranges) := by
    rw [parseWideRangeRequest, haddress] at h ⊢
    dsimp only at h ⊢
    rw [if_neg (by omega)] at h ⊢
    split at h
    case isTrue hmany =>
      obtain ⟨loop, hloop, hranges⟩ := Option.map_eq_some_iff.mp h
      rw [if_pos hmany, chunkLoop_mono (Nat.le_max_left fuel _) hloop, Option.map_some, hranges]
    case isFalse hmany => rw [if_neg hmany, h]
  rw [hall] at hsame
  exact (Except.ok.inj (Option.some.inj hsame)).symm

/-- The requests of a range follow one another, are at most as long as the bound and cover it,
    each address once; they are made exactly when the bound is positive or there is nothing to
    read. With another bound the loop never ends. -/
theorem parseWideRangeRequest_covers {address : String} {first last count size : Int}
    (haddress : parseWideRangeAddress address = .ok (first, last)) :
    ((∃ fuel result, parseWideRangeRequest fuel address count size = some result) ↔
      last - first + count ≤ 0 ∨ 0 < size) ∧
    ∀ fuel ranges, parseWideRangeRequest fuel address count size = some (.ok ranges) →
      (∀ range ∈ ranges, 0 < range.2 ∧ range.2 ≤ size) ∧
      (ranges.flatMap fun range => addresses range.1 range.2.toNat) =
        addresses first (last - first + count).toNat := by
  constructor
  · constructor
    · intro h
      obtain ⟨fuel, result, hparse⟩ := h
      by_cases hempty : last - first + count ≤ 0
      · exact .inl hempty
      · by_cases hsize : 0 < size
        · exact .inr hsize
        -- the loop never advances by a chunk without registers
        · rw [parseWideRangeRequest, haddress] at hparse
          dsimp only at hparse
          rw [if_neg hempty, if_pos (by omega),
            chunkLoop_eq_none (by omega) fuel first (by omega)] at hparse
          cases hparse
    · intro h
      -- nothing to read is refused at once, with any fuel
      by_cases hempty : last - first + count ≤ 0
      · refine ⟨0, .error (.valueError
          "Invalid address range: End address must be greater than start address"), ?_⟩
        rw [parseWideRangeRequest, haddress]
        dsimp only
        rw [if_pos hempty]
      · exact ⟨_, _, parseWideRangeRequest_eq haddress (by omega) (by omega) le_rfl⟩
  · intro fuel ranges hparse
    rw [parseWideRangeRequest_of_ok haddress hparse]
    obtain ⟨hregisters, hsize⟩ := parseWideRangeRequest_pos haddress hparse
    have hpos : 0 < size.toNat := by omega
    -- a chunk is a piece: it is not empty and holds `size` registers at most
    constructor
    · intro range hrange
      obtain ⟨p, hp, rfl⟩ := List.mem_map.mp hrange
      have hbound := mem_pieces hpos hp
      show (0 : Int) < (p.2 : Int) ∧ (p.2 : Int) ≤ size
      omega
    -- and the pieces are the addresses, each once
    · rw [List.flatMap_map]
      exact covered_pieces hpos first _

/-- The addresses 10 to 12 in pieces of two. -/
theorem parseWideRangeRequest_covers_meter :
    ((∃ fuel result, parseWideRangeRequest fuel "10-12" 1 2 = some result) ↔
      (12 : Int) - 10 + 1 ≤ 0 ∨ (0 : Int) < 2) ∧
    ∀ fuel ranges, parseWideRangeRequest fuel "10-12" 1 2 = some (.ok ranges) →
      (∀ range ∈ ranges, 0 < range.2 ∧ range.2 ≤ 2) ∧
      (ranges.flatMap fun range => addresses range.1 range.2.toNat) =
        addresses 10 ((12 : Int) - 10 + 1).toNat :=
  parseWideRangeRequest_covers rfl

end Utils

/-! ## Blocks read on their own -/

/-- How many bits a response has after those it was asked for. Registers come as they are. -/
def padding (functionCode : Int) (n : Nat) : Nat :=
  if functionCode ∈ [1, 2] then (8 - n % 8) % 8 else 0

namespace Point

/-- The registers of a block. -/
def block (memory : Int → Int → R) (config : Point R V) (p : Int × Nat) : List R :=
  (addresses p.1 p.2).map (memory config.functionCode)

/-- What a response to a request for a block holds: the block, and for bits as many cleared ones as
    complete the last byte. -/
def received (cleared : R) (memory : Int → Int → R) (config : Point R V) (p : Int × Nat) : List R :=
  config.block memory p ++ List.replicate (padding config.functionCode p.2) cleared

/-- The blocks the values of a datapoint are made of. -/
def blocks (config : Point R V) : List (Int × Nat) :=
  let count := config.objectsCount.getD 1
  match config.address with
  | .number n => [(n, count.toNat)]
  | .text s =>
    match Utils.parseWideRangeAddress s with
    | .error _ => []
    | .ok (first, last) => pieces count.toNat first (last - first + count).toNat

/-- The requests its registers are read with. -/
def requests (config : Point R V) : List (Int × Nat) :=
  let count := config.objectsCount.getD 1
  match config.address with
  | .number n => [(n, count.toNat)]
  | .text s =>
    match Utils.parseWideRangeAddress s with
    | .error _ => []
    | .ok (first, last) =>
      pieces (config.maxRegistersPerRequest.getD 16).toNat first (last - first + count).toNat

/-- The key of a value at an address. -/
def key (expand : String → Int → String) (config : Point R V) (address : Int) : String :=
  if Utils.isWideRangeRequest config.address then
    expand (validateKeyNameExpression config.tag) address
  else config.tag

/-- An exception that `convert` catches leaves no values. -/
def settled : Py (List (String × V)) → Py (List (String × V))
  | .ok values => .ok values
  | .error error => if caught error then .ok [] else .error error

/-- Blocks decoded one after the other, each with the key of its address. -/
def decodeBlocks (decodeData : List R → Py (Option V)) (key : Int → String)
    (block : Int × Nat → List R) : List (Int × Nat) → Py (List (String × V))
  | [] => .ok []
  | p :: ps =>
    match decodeData (block p) with
    | .error error => .error error
    | .ok decoded =>
      (decodeBlocks decodeData key block ps).map (decoded.toList.map (key p.1, ·) ++ ·)

/-- What a block is decoded from: the block of a range is a part of what was read, the one of a
    single address is all of it. -/
def source (cleared : R) (memory : Int → Int → R) (config : Point R V) : Int × Nat → List R :=
  match config.address with
  | .number _ => config.received cleared memory
  | .text _ => config.block memory

/-- The values of a datapoint when each block is read and decoded on its own. -/
def values (expand : String → Int → String) (cleared : R) (memory : Int → Int → R)
    (config : Point R V) : Py (List (String × V)) :=
  settled (decodeBlocks config.decodeData (config.key expand) (config.source cleared memory)
    config.blocks)

/-- The responses to the requests of a range hold what was asked for and nothing else: they are
    registers, or bits in whole bytes. -/
def Whole (config : Point R V) : Prop :=
  ∀ s, config.address = .text s → ∀ p ∈ config.requests, padding config.functionCode p.2 = 0

/-- The type of a datapoint is known to the decoder, or it is not. -/
def Steady (config : Point R V) : Prop :=
  (∀ xs, config.decodeData xs ≠ .ok none) ∨ ∀ xs v, config.decodeData xs ≠ .ok (some v)

/-- A datapoint that can be read. -/
structure Readable (config : Point R V) : Prop where
  /-- Its address is a number or a range. -/
  address : ∀ s, config.address = .text s → Utils.isWideRangeRequest (.text s) = true
  functionCode : config.functionCode ∈ [1, 2, 3, 4]
  objectsCount : config.objectsCount ≠ none
  /-- Otherwise the reading would not end. -/
  maxRegistersPerRequest : 0 < config.maxRegistersPerRequest.getD 16
  whole : config.Whole
  steady : config.Steady

end Point

/-- The device answers every request with what its registers hold, or its bits, in whole bytes. -/
def Answers (cleared : R) (memory : Int → Int → R)
    (read : Nat → Int → Address → Int → Answer R) : Prop :=
  ∀ place functionCode start n, read place functionCode (.number start) n =
    .response (.registers ((addresses start n.toNat).map (memory functionCode) ++
      List.replicate (padding functionCode n.toNat) cleared))

/-! ## The decoding loop -/

/-- A tag that names the address stays as it is. -/
theorem validateKeyNameExpression_of_mem {tag : String} (h : "address".toList <:+: tag.toList) :
    validateKeyNameExpression tag = tag :=
  if_pos h

/-- And every tag names it afterwards. -/
theorem validateKeyNameExpression_mem (tag : String) :
    "address".toList <:+: (validateKeyNameExpression tag).toList := by
  by_cases h : "address".toList <:+: tag.toList
  · rw [validateKeyNameExpression_of_mem h]
    exact h
  · have hadded : validateKeyNameExpression tag = tag ++ "_$\x7baddress\x7d" := if_neg h
    have hin : "address".toList <:+: "_$\x7baddress\x7d".toList :=
      ⟨['_', '$', '\x7b'], ['\x7d'], rfl⟩
    rw [hadded, String.toList_append]
    exact hin.trans (List.suffix_append _ _).isInfix

/-- So a second turn of the converter changes no tag. -/
theorem validateKeyNameExpression_idem (tag : String) :
    validateKeyNameExpression (validateKeyNameExpression tag) = validateKeyNameExpression tag :=
  validateKeyNameExpression_of_mem (validateKeyNameExpression_mem tag)

/-- The address of a value is the one its block begins at. -/
theorem wideRangeLoop_eq (expand : String → Int → String) {count a : Int} {config : Point R V}
    (block : Int × Nat → List R) {ps : List (Int × Nat)}
    (h : (∀ xs, config.decodeData xs ≠ .ok none) ∧ Strided count a ps ∨
      ∀ xs v, config.decodeData xs ≠ .ok (some v)) :
    (wideRangeLoop expand count (ps.map block) a config).1 =
      Point.decodeBlocks config.decodeData (expand (validateKeyNameExpression config.tag)) block
        ps := by
  -- induction on the chunks; the tag that is carried along is validated already after the first
  induction ps generalizing a config with
  | nil => rfl
  | cons p ps ih =>
    rw [List.map_cons, wideRangeLoop, Point.decodeBlocks]
    cases hdecode : config.decodeData (block p) with
    -- an exception ends the loop, and `decodeBlocks` there
    | error error => rfl
    | ok decoded =>
      cases decoded with
      | none =>
        -- no value has this type
        have hnone := h.resolve_left fun hsome => hsome.1 (block p) hdecode
        dsimp only
        rw [ih (.inr hnone)]
        cases Point.decodeBlocks config.decodeData (expand (validateKeyNameExpression config.tag))
          block ps <;> rfl
      -- the next block begins `count` later, which is where the loop is
      | some v =>
        obtain ⟨hsome, hfirst, hrest⟩ := h.resolve_right fun hnone => hnone (block p) v hdecode
        have hih := @ih (a + count) { config with tag := validateKeyNameExpression config.tag }
          (.inl ⟨hsome, hrest⟩)
        rw [validateKeyNameExpression_idem] at hih
        dsimp only
        rw [hih, ← hfirst]
        rfl

/-- The loop changes at most the tag. -/
theorem wideRangeLoop_config (expand : String → Int → String) (count a : Int)
    (chunks : List (List R)) (config : Point R V) :
    (wideRangeLoop expand count chunks a config).2 = config ∨
      (wideRangeLoop expand count chunks a config).2 =
        { config with tag := validateKeyNameExpression config.tag } := by
  induction chunks generalizing a config with
  | nil => exact .inl rfl
  | cons chunk chunks ih =>
    rw [wideRangeLoop]
    cases config.decodeData chunk with
    | error error => exact .inl rfl
    | ok decoded =>
      cases decoded with
      | none => exact ih a config
      | some v =>
        dsimp only
        obtain hsame | htag := ih (a + count)
          { config with tag := validateKeyNameExpression config.tag }
        · exact .inr hsame
        · rw [htag]
          simp only [validateKeyNameExpression_idem, or_true]

/-! ## Reading a section -/

namespace Point

/-- What the requests of a datapoint bring. -/
def responses (cleared : R) (memory : Int → Int → R) (config : Point R V) : List (Response R) :=
  config.requests.map fun p => .registers (config.received cleared memory p)

/-- The turns the requests take to make. -/
def turns (config : Point R V) : Nat := total config.requests

end Point

/-- A device that answers gives the blocks of its memory, and no request fails. -/
theorem readRanges_eq {cleared : R} {memory : Int → Int → R} {read : Nat → Int → Address → Int → Answer R}
    (h : Answers cleared memory read) (place : Nat) (config : Point R V) (ps : List (Int × Nat)) :
    readRanges (read place config.functionCode) (ps.map fun p => (.number p.1, (p.2 : Int))) =
      (ps.map fun p => .registers (config.received cleared memory p), false) := by
  induction ps with
  | nil => rfl
  | cons p ps ih =>
    rw [List.map_cons, readRanges, h place config.functionCode p.1 p.2]
    dsimp only
    rw [ih]
    rfl

/-- A datapoint whose requests are all answered stores its responses under its tag. -/
theorem readSection_of_ranges {fuel : Nat} {read : Nat → Int → Address → Int → Answer R}
    {place : Nat} {config : Point R V} {ranges : List (Address × Int)}
    {responses : List (Response R)} (hranges : getAddressRanges fuel config = some (.ok ranges))
    (hread : readRanges (read place config.functionCode) ranges = (responses, false))
    (configs : List (Point R V)) (data : SectionData R) :
    readSection fuel read place (config :: configs) data =
      readSection fuel read (place + 1) configs (store data config.tag responses) := by
  rw [readSection, hranges]
  simp only [hread, Bool.false_eq_true, if_false]

/-- A datapoint with an address that cannot be parsed is passed over. -/
theorem readSection_of_valueError {fuel : Nat} {read : Nat → Int → Address → Int → Answer R}
    {place : Nat} {config : Point R V} {message : String}
    (hranges : getAddressRanges fuel config = some (.error (.valueError message)))
    (configs : List (Point R V)) (data : SectionData R) :
    readSection fuel read place (config :: configs) data =
      readSection fuel read (place + 1) configs data := by
  rw [readSection, hranges]
  rfl

/-- Reading a datapoint stores what its registers hold; one without requests is skipped. -/
theorem readSection_cons {cleared : R} {memory : Int → Int → R} {read : Nat → Int → Address → Int → Answer R}
    (h : Answers cleared memory read) {config : Point R V} (hconfig : config.Readable) {fuel : Nat}
    (hfuel : config.turns ≤ fuel) (place : Nat) (configs : List (Point R V))
    (data : SectionData R) :
    readSection fuel read place (config :: configs) data =
      readSection fuel read (place + 1) configs
        (store data config.tag (config.responses cleared memory)) := by
  obtain ⟨count, hcount⟩ := Option.ne_none_iff_exists'.mp hconfig.objectsCount
  -- a number asks for one range, a text for the chunks of its addresses
  cases haddress : config.address with
  | number n =>
    have hranges : getAddressRanges fuel config = some (.ok [(.number n, count)]) := by
      simp [getAddressRanges, hcount, haddress]
    have hrequests : config.requests = [(n, count.toNat)] := by
      simp [Point.requests, haddress, hcount]
    refine readSection_of_ranges hranges ?_ configs data
    rw [readRanges, h place config.functionCode n count, Point.responses, hrequests]
    rfl
  | text s =>
    have hwide := hconfig.address s haddress
    have hmax := hconfig.maxRegistersPerRequest
    have hranges : getAddressRanges fuel config = (Utils.parseWideRangeRequest fuel s count
        (config.maxRegistersPerRequest.getD 16)).map fun ranges =>
          ranges.map (List.map fun range => (.number range.1, range.2)) := by
      simp [getAddressRanges, hcount, haddress, hwide]
    -- a range that cannot be parsed is logged, and nothing is read
    cases hparse : Utils.parseWideRangeAddress s with
    | error error =>
      have hrequests : config.requests = [] := by simp [Point.requests, haddress, hparse]
      rw [Utils.parseWideRangeRequest, hparse] at hranges
      rw [readSection_of_valueError hranges, Point.responses, hrequests]
      rfl
    | ok range =>
      obtain ⟨first, last⟩ := range
      have hrequests : config.requests = pieces (config.maxRegistersPerRequest.getD 16).toNat
          first (last - first + count).toNat := by
        simp [Point.requests, haddress, hcount, hparse]
      by_cases hempty : last - first + count ≤ 0
      · -- nothing to read is an error
        rw [Utils.parseWideRangeRequest, hparse] at hranges
        dsimp only at hranges
        rw [if_pos hempty] at hranges
        have hzero : (last - first + count).toNat = 0 := by omega
        rw [readSection_of_valueError hranges, Point.responses, hrequests, hzero,
          pieces_zero (by omega)]
        rfl
      -- the fuel is enough for the chunks of this datapoint
      · have hturns : (last - first + count).toNat ≤ fuel := by
          rw [Point.turns, hrequests, total_pieces (by omega)] at hfuel
          exact hfuel
        rw [Utils.parseWideRangeRequest_eq hparse (by omega) hmax hturns, ← hrequests] at hranges
        refine readSection_of_ranges hranges ?_ configs data
        rw [List.map_map]
        exact readRanges_eq h place config config.requests

/-- The data of a section. -/
theorem readSection_eq {cleared : R} {memory : Int → Int → R} {read : Nat → Int → Address → Int → Answer R}
    (h : Answers cleared memory read) {configs : List (Point R V)}
    (hconfigs : ∀ config ∈ configs, config.Readable) {fuel : Nat}
    (hfuel : ∀ config ∈ configs, config.turns ≤ fuel) (place : Nat) (data : SectionData R) :
    readSection fuel read place configs data =
      .returned (configs.foldl (fun data config =>
        store data config.tag (config.responses cleared memory)) data) := by
  induction configs generalizing place data with
  | nil => rfl
  | cons config configs ih =>
    rw [readSection_cons h (hconfigs config List.mem_cons_self) (hfuel config List.mem_cons_self),
      ih (fun c hc => hconfigs c (List.mem_cons_of_mem config hc))
        (fun c hc => hfuel c (List.mem_cons_of_mem config hc))]
    rfl

/-- What is under a tag: what was there, and the responses. -/
theorem get?_store (data : SectionData R) (tag : String) (responses : List (Response R))
    (tag' : String) :
    (store data tag responses).get? tag' =
      if tag' = tag ∧ responses ≠ [] then some ((data.get? tag).getD [] ++ responses)
      else data.get? tag' := by
  cases responses with
  | nil => rw [if_neg (fun hne => hne.2 rfl), store, if_pos List.isEmpty_nil]
  | cons response responses =>
    rw [store, if_neg (by simp), Dict.get?_set]
    simp only [ne_eq, reduceCtorEq, not_false_eq_true, and_true]

/-- With different tags each datapoint finds its own responses. -/
theorem get?_foldl_store {cleared : R} {memory : Int → Int → R} {configs : List (Point R V)}
    (hnodup : (configs.map Point.tag).Nodup) {data : SectionData R}
    (hdata : ∀ config ∈ configs, data.get? config.tag = none) :
    (∀ tag ∉ configs.map Point.tag, (configs.foldl (fun data config =>
        store data config.tag (config.responses cleared memory)) data).get? tag = data.get? tag) ∧
    ∀ config ∈ configs, (configs.foldl (fun data config =>
        store data config.tag (config.responses cleared memory)) data).get? config.tag =
      if config.responses cleared memory = [] then none else some (config.responses cleared memory) := by
  -- induction on the datapoints; the tags of the later ones are free of the first
  induction configs generalizing data with
  | nil => exact ⟨fun _ _ => rfl, fun _ hc => absurd hc List.not_mem_nil⟩
  | cons config configs ih =>
    obtain ⟨hfirst, hrest⟩ := List.nodup_cons.mp hnodup
    have hother : ∀ tag, tag ≠ config.tag →
        (store data config.tag (config.responses cleared memory)).get? tag = data.get? tag := by
      intro tag hne
      rw [get?_store, if_neg fun h => hne h.1]
    obtain ⟨hout, hin⟩ := @ih hrest (store data config.tag (config.responses cleared memory)) (by
      intro c hc
      rw [hother c.tag fun heq => hfirst (heq ▸ List.mem_map_of_mem hc)]
      exact hdata c (List.mem_cons_of_mem config hc))
    constructor
    -- a tag of none of them: every step leaves it
    · intro tag htag
      rw [List.map_cons, List.mem_cons, not_or] at htag
      exact (hout tag htag.2).trans (hother tag htag.1)
    -- a tag of one: the later steps leave what its own step has stored
    · intro c hc
      cases List.mem_cons.mp hc with
      | inl heq =>
        rw [heq]
        refine (hout config.tag hfirst).trans ?_
        rw [get?_store, hdata config List.mem_cons_self]
        by_cases hempty : config.responses cleared memory = []
        · rw [if_neg fun h => h.2 hempty, if_pos hempty]
        · rw [if_pos ⟨rfl, hempty⟩, if_neg hempty]
          rfl
      | inr hmem => exact hin c hmem

/-! ## Converting a section -/

/-- Pieces without a size cover nothing. -/
@[simp] theorem pieces_size_zero (start : Int) (n : Nat) : pieces 0 start n = [] := by
  simp [pieces, count]

/-- The registers of valid responses. -/
theorem mapM_registers {functionCode : Int} (hcode : functionCode ∈ [1, 2, 3, 4])
    (f : Int × Nat → List R) (ps : List (Int × Nat)) :
    ((ps.map fun p => Response.registers (f p)).filter Response.valid).mapM
      (getRegistersFromEncodedData functionCode) = .ok (ps.map f) := by
  induction ps with
  | nil => rfl
  | cons p ps ih =>
    rw [List.map_cons, List.filter_cons_of_pos rfl, List.mapM_cons, ih,
      getRegistersFromEncodedData, if_pos hcode]
    rfl

/-- The blocks of the requests, one after the other, are the memory they cover. -/
theorem flatten_blocks (memory : Int → Int → R) (config : Point R V) (ps : List (Int × Nat)) :
    (ps.map (config.block memory)).flatten = (covered ps).map (memory config.functionCode) := by
  induction ps with
  | nil => rfl
  | cons p ps ih =>
    rw [List.map_cons, List.flatten_cons, ih, covered_cons, List.map_append]
    rfl

/-- A wide range from the registers at its addresses. -/
theorem processWideRangeResponseEncodedData_eq (expand : String → Int → String)
    (memory : Int → Int → R) {config : Point R V} (hsteady : config.Steady) {s : String}
    (haddress : config.address = .text s)
    (hwide : Utils.isWideRangeRequest (.text s) = true) {first last : Int}
    (hparse : Utils.parseWideRangeAddress s = .ok (first, last)) (n : Nat)
    (hcount : config.objectsCount.getD 1 ≠ 0) :
    (processWideRangeResponseEncodedData expand config
      ((addresses first n).map (memory config.functionCode))).1 =
      Point.decodeBlocks config.decodeData (expand (validateKeyNameExpression config.tag))
        (config.block memory) (pieces (config.objectsCount.getD 1).toNat first n) := by
  have hstart : Utils.getStartAddress config.address = .ok first := by
    rw [haddress, Utils.getStartAddress, if_pos hwide, hparse]
    rfl
  -- the chunks the converter cuts are the blocks of the datapoint
  rw [processWideRangeResponseEncodedData, hstart]
  dsimp only
  rw [if_neg hcount, slices_map_addresses]
  refine wideRangeLoop_eq expand (config.block memory) ?_
  obtain hsome | hnone := hsteady
  · refine .inl ⟨hsome, ?_⟩
    -- the blocks follow one another by `count` addresses
    by_cases hpos : 0 < config.objectsCount.getD 1
    · have hstride := strided_pieces (by omega : 0 < (config.objectsCount.getD 1).toNat) first n
      rw [show ((config.objectsCount.getD 1).toNat : Int) = config.objectsCount.getD 1 by omega]
        at hstride
      -- without a count there are no blocks, so nothing to follow
      exact hstride
    · rw [show (config.objectsCount.getD 1).toNat = 0 by omega, pieces_size_zero]
      trivial
  · exact .inr hnone

/-- What is converted for a datapoint, without the tag the conversion rewrites. -/
theorem convertPoint_fst (expand : String → Int → String) (config : Point R V)
    (encodedData : Option (List (Response R))) :
    (convertPoint expand config encodedData).1 =
      Point.settled (if Utils.isWideRangeRequest config.address then
        (processWideRangeResponse expand config encodedData).1
      else processSingleAddressResponse config encodedData) := by
  rw [convertPoint]
  by_cases hwide : Utils.isWideRangeRequest config.address = true
  · rw [if_pos hwide, if_pos hwide]
    cases processWideRangeResponse expand config encodedData with
    | mk result config' => cases result <;> rfl
  · rw [if_neg hwide, if_neg hwide]
    cases processSingleAddressResponse config encodedData <;> rfl

/-- A datapoint with one address is one block. -/
theorem convertPoint_number (expand : String → Int → String) (cleared : R) (memory : Int → Int → R)
    {config : Point R V} (hconfig : config.Readable) {n : Int}
    (haddress : config.address = .number n) :
    (convertPoint expand config (if config.responses cleared memory = [] then none
      else some (config.responses cleared memory))).1 = config.values expand cleared memory := by
  obtain ⟨count, hcount⟩ := Option.ne_none_iff_exists'.mp hconfig.objectsCount
  have hresponses : config.responses cleared memory =
      [.registers (config.received cleared memory (n, count.toNat))] := by
    simp [Point.responses, Point.requests, haddress, hcount]
  have hsource : config.source cleared memory = config.received cleared memory := by
    rw [Point.source, haddress]
  have hkey : config.key expand n = config.tag := by
    rw [Point.key, haddress]
    rfl
  have hwide : Utils.isWideRangeRequest config.address = false := by
    rw [haddress]
    rfl
  have hblocks : config.blocks = [(n, count.toNat)] := by simp [Point.blocks, haddress, hcount]
  rw [hresponses, if_neg (by simp), convertPoint_fst, hwide, if_neg Bool.false_ne_true,
    Point.values, hblocks, hsource]
  -- one block, decoded as it was received
  apply congrArg Point.settled
  rw [Point.decodeBlocks, Point.decodeBlocks, processSingleAddressResponse, Response.valid,
    if_pos rfl, getRegistersFromEncodedData, if_pos hconfig.functionCode, Except.ok_bind]
  cases config.decodeData (config.received cleared memory (n, count.toNat)) with
  | error error => rfl
  | ok decoded =>
    cases decoded with
    | none => rfl
    | some v =>
      dsimp only [Except.map, Option.toList, List.map]
      rw [hkey]
      rfl

/-- The responses of a range are the blocks that were asked for. -/
theorem Point.Whole.received_eq {config : Point R V} (h : config.Whole) {s : String}
    (haddress : config.address = .text s) (cleared : R) (memory : Int → Int → R) {p : Int × Nat}
    (hp : p ∈ config.requests) : config.received cleared memory p = config.block memory p := by
  rw [Point.received, h s haddress p hp, List.replicate_zero, List.append_nil]

/-- The registers of a range that was read in full are those of its addresses. -/
theorem processWideRangeResponse_responses (expand : String → Int → String)
    (cleared : R) (memory : Int → Int → R) {config : Point R V} (hconfig : config.Readable) {s : String}
    (haddress : config.address = .text s) {first : Int} {n : Nat} (hrequests : config.requests =
      pieces (config.maxRegistersPerRequest.getD 16).toNat first n) :
    processWideRangeResponse expand config (some (config.responses cleared memory)) =
      processWideRangeResponseEncodedData expand config
        ((addresses first n).map (memory config.functionCode)) := by
  have hmax := hconfig.maxRegistersPerRequest
  have hblocks : config.responses cleared memory =
      config.requests.map fun p => .registers (config.block memory p) :=
    List.map_congr_left fun p hp =>
      congrArg Response.registers (hconfig.whole.received_eq haddress cleared memory hp)
  rw [processWideRangeResponse, hblocks, mapM_registers hconfig.functionCode]
  dsimp only
  rw [flatten_blocks, hrequests, covered_pieces (by omega)]

/-- A range of addresses is decoded block by block. -/
theorem convertPoint_text (expand : String → Int → String) (cleared : R) (memory : Int → Int → R)
    {config : Point R V} (hconfig : config.Readable) {s : String}
    (haddress : config.address = .text s) :
    (convertPoint expand config (if config.responses cleared memory = [] then none
      else some (config.responses cleared memory))).1 = config.values expand cleared memory := by
  obtain ⟨count, hcount⟩ := Option.ne_none_iff_exists'.mp hconfig.objectsCount
  have hwide := hconfig.address s haddress
  have hwide' : Utils.isWideRangeRequest config.address = true := by rw [haddress, hwide]
  have hsource : config.source cleared memory = config.block memory := by
    rw [Point.source, haddress]
  have hmax := hconfig.maxRegistersPerRequest
  have hkey : config.key expand = expand (validateKeyNameExpression config.tag) := by
    funext a
    rw [Point.key, if_pos hwide']
  rw [convertPoint_fst, if_pos hwide', Point.values, hkey, hsource]
  -- whether the range can be parsed decides whether anything was requested
  cases hparse : Utils.parseWideRangeAddress s with
  | error error =>
    have hresponses : config.responses cleared memory = [] := by
      simp [Point.responses, Point.requests, haddress, hparse]
    have hblocks : config.blocks = [] := by simp [Point.blocks, haddress, hparse]
    rw [if_pos hresponses, hblocks]
    rfl
  | ok range =>
    obtain ⟨first, last⟩ := range
    have hblocks : config.blocks = pieces count.toNat first (last - first + count).toNat := by
      simp [Point.blocks, haddress, hparse, hcount]
    have hrequests : config.requests = pieces (config.maxRegistersPerRequest.getD 16).toNat
        first (last - first + count).toNat := by
      simp [Point.requests, haddress, hcount, hparse]
    by_cases hempty : last - first + count ≤ 0
    · -- nothing was read, and there are no blocks
      have hzero : (last - first + count).toNat = 0 := by omega
      have hresponses : config.responses cleared memory = [] := by
        rw [Point.responses, hrequests, hzero, pieces_zero (by omega)]
        rfl
      have hnone : config.blocks = [] := by
        rw [hblocks, hzero]
        by_cases hpos : 0 < count.toNat
        · exact pieces_zero hpos first
        · rw [Nat.eq_zero_of_not_pos hpos, pieces_size_zero]
      rw [if_pos hresponses, hnone]
      rfl
    -- there is at least one chunk, so that a response is stored
    · have hresponses : config.responses cleared memory ≠ [] := by
        rw [Point.responses, hrequests, pieces_cons (by omega) (by omega)]
        exact List.cons_ne_nil _ _
      rw [if_neg hresponses, processWideRangeResponse_responses expand cleared memory hconfig haddress
        hrequests,
        hblocks]
      by_cases hzero : count = 0
      · -- `range` with a step of zero
        have hstart : Utils.getStartAddress config.address = .ok first := by
          rw [haddress, Utils.getStartAddress, if_pos hwide, hparse]
          rfl
        rw [processWideRangeResponseEncodedData, hstart, hcount, hzero]
        rw [show Int.toNat 0 = 0 from rfl, pieces_size_zero]
        rfl
      -- the converter counts from the first address of the range, where the blocks begin
      · have hvalues := @processWideRangeResponseEncodedData_eq R V expand memory config
          hconfig.steady s haddress hwide first last hparse (last - first + count).toNat
          (by rw [hcount]; exact hzero)
        rw [hcount] at hvalues
        exact congrArg Point.settled hvalues

/-- The values of a datapoint are those of its blocks. -/
theorem convertPoint_eq (expand : String → Int → String) (cleared : R) (memory : Int → Int → R)
    {config : Point R V} (hconfig : config.Readable) :
    (convertPoint expand config (if config.responses cleared memory = [] then none
      else some (config.responses cleared memory))).1 = config.values expand cleared memory := by
  cases haddress : config.address with
  | number n => exact convertPoint_number expand cleared memory hconfig haddress
  | text s => exact convertPoint_text expand cleared memory hconfig haddress

/-- Converting a datapoint changes at most the tag, and not one with the address in it. -/
theorem convertPoint_config (expand : String → Int → String) {config : Point R V}
    (hstable : Utils.isWideRangeRequest config.address = true →
      "address".toList <:+: config.tag.toList) (encodedData : Option (List (Response R))) :
    (convertPoint expand config encodedData).2 = config := by
  -- `convertPoint` returns the configuration of the branch it takes
  have hsnd : (convertPoint expand config encodedData).2 =
      (if Utils.isWideRangeRequest config.address then
        processWideRangeResponse expand config encodedData
      else (processSingleAddressResponse config encodedData, config)).2 := by
    rw [convertPoint]
    cases (if Utils.isWideRangeRequest config.address then
        processWideRangeResponse expand config encodedData
      else (processSingleAddressResponse config encodedData, config)) with
    | mk result config' => cases result <;> rfl
  rw [hsnd]
  split
  case isFalse => rfl
  -- only a wide range can rename its tag, and this tag is its own validated form
  case isTrue hwide =>
    have hkeep : ∀ count a chunks, (wideRangeLoop expand count chunks a config).2 = config := by
      intro count a chunks
      obtain hsame | htag := wideRangeLoop_config expand count a chunks config
      · exact hsame
      · rw [htag, validateKeyNameExpression_of_mem (hstable hwide)]
    cases encodedData with
    | none => rfl
    | some responses =>
      rw [processWideRangeResponse]
      cases (responses.filter Response.valid).mapM
          (getRegistersFromEncodedData config.functionCode) with
      | error error => rfl
      | ok registers =>
        dsimp only
        rw [processWideRangeResponseEncodedData]
        cases Utils.getStartAddress config.address with
        | error error => rfl
        | ok startAddress =>
          dsimp only
          split
          · rfl
          · exact hkeep _ _ _

/-! ## Polls -/

/-- The values of a section, its blocks read one by one. -/
def sectionValues (expand : String → Int → String) (cleared : R) (memory : Int → Int → R) :
    List (Point R V) → Py (List (String × V))
  | [] => .ok []
  | config :: configs =>
    match config.values expand cleared memory with
    | .error error => .error error
    | .ok values => (sectionValues expand cleared memory configs).map (values ++ ·)

/-- The values of a poll. -/
def pollValues (expand : String → Int → String) (cleared : R) (memory : Int → Int → R)
    (config : UplinkConfig R V) : Py (Payloads V) :=
  match sectionValues expand cleared memory config.attributes with
  | .error error => .error error
  | .ok attributes =>
    (sectionValues expand cleared memory config.telemetry).map fun telemetry => { attributes, telemetry }

/-- The values of several polls. -/
def pollsValues (expand : String → Int → String) (cleared : R) (config : UplinkConfig R V) :
    List (Int → Int → R) → Py (Payloads V)
  | [] => .ok { attributes := [], telemetry := [] }
  | memory :: memories =>
    match pollValues expand cleared memory config with
    | .error error => .error error
    | .ok first => (pollsValues expand cleared config memories).map fun rest =>
        { attributes := first.attributes ++ rest.attributes
          telemetry := first.telemetry ++ rest.telemetry }

/-- The datapoints can be read, and no two of a section have the same tag. -/
structure UplinkConfig.Readable (config : UplinkConfig R V) : Prop where
  attributes : ∀ point ∈ config.attributes, point.Readable
  telemetry : ∀ point ∈ config.telemetry, point.Readable
  attributeTags : (config.attributes.map Point.tag).Nodup
  telemetryTags : (config.telemetry.map Point.tag).Nodup

/-- The turns the loops of a poll take. -/
def UplinkConfig.Within (config : UplinkConfig R V) (fuel : Nat) : Prop :=
  ∀ point ∈ config.attributes ++ config.telemetry, point.turns ≤ fuel

/-- A section is converted value by value when each of its datapoints is. -/
theorem convertSection_eq (expand : String → Int → String) (cleared : R) (memory : Int → Int → R)
    {data : SectionData R} {configs : List (Point R V)}
    (h : ∀ config ∈ configs, (convertPoint expand config (data.get? config.tag)).1 =
      config.values expand cleared memory) :
    (convertSection expand data configs).1 = sectionValues expand cleared memory configs := by
  induction configs with
  | nil => rfl
  | cons config configs ih =>
    have hfirst := h config List.mem_cons_self
    have hrest := ih fun c hc => h c (List.mem_cons_of_mem config hc)
    rw [convertSection, sectionValues, ← hfirst, ← hrest]
    cases convertPoint expand config (data.get? config.tag) with
    | mk result config' =>
      cases result with
      | error error => rfl
      | ok values => rfl

/-- The tags of a section that name the address stay as they are. -/
theorem convertSection_config (expand : String → Int → String) {data : SectionData R}
    {configs : List (Point R V)}
    (h : ∀ config ∈ configs, Utils.isWideRangeRequest config.address = true →
      "address".toList <:+: config.tag.toList) :
    (convertSection expand data configs).2 = configs := by
  induction configs with
  | nil => rfl
  | cons config configs ih =>
    have hfirst := convertPoint_config expand (h config List.mem_cons_self)
      (data.get? config.tag)
    have hrest := ih fun c hc => h c (List.mem_cons_of_mem config hc)
    rw [convertSection]
    cases hpoint : convertPoint expand config (data.get? config.tag) with
    | mk result config' =>
      rw [hpoint] at hfirst
      obtain rfl : config' = config := hfirst
      cases result with
      | error error => rfl
      | ok values => exact congrArg (config' :: ·) hrest

/-- What a section stores is converted to the values of its blocks. -/
theorem convertSection_readSection (expand : String → Int → String) {cleared : R} {memory : Int → Int → R}
    {read : Nat → Int → Address → Int → Answer R} (h : Answers cleared memory read)
    {configs : List (Point R V)} (hconfigs : ∀ config ∈ configs, config.Readable)
    (hnodup : (configs.map Point.tag).Nodup) {fuel : Nat}
    (hfuel : ∀ config ∈ configs, config.turns ≤ fuel) :
    ∃ data, readSection fuel read 0 configs [] = .returned data ∧
      (convertSection expand data configs).1 = sectionValues expand cleared memory configs := by
  refine ⟨_, readSection_eq h hconfigs hfuel 0 [], convertSection_eq expand cleared memory ?_⟩
  intro config hconfig
  rw [(get?_foldl_store hnodup fun _ _ => rfl).2 config hconfig]
  exact convertPoint_eq expand cleared memory (hconfigs config hconfig)

/-- A poll of a device that answers ends, with both sections as their blocks have them. -/
theorem readSlaveData_sections (expand : String → Int → String) {cleared : R} {memory : Int → Int → R}
    {read : ConfigSection → Nat → Int → Address → Int → Answer R}
    (hanswers : ∀ part, Answers cleared memory (read part)) {config : UplinkConfig R V}
    (hconfig : config.Readable) {fuel : Nat} (hfuel : config.Within fuel) :
    ∃ data, readSlaveData fuel read config = .returned data ∧
      (convertSection expand data.attributes config.attributes).1 =
        sectionValues expand cleared memory config.attributes ∧
      (convertSection expand data.telemetry config.telemetry).1 =
        sectionValues expand cleared memory config.telemetry := by
  obtain ⟨attributes, hattributes, hfirst⟩ := convertSection_readSection expand
    (hanswers .attributes) hconfig.attributes hconfig.attributeTags
    fun point hpoint => hfuel point (List.mem_append_left _ hpoint)
  obtain ⟨telemetry, htelemetry, hsecond⟩ := convertSection_readSection expand
    (hanswers .telemetry) hconfig.telemetry hconfig.telemetryTags
    fun point hpoint => hfuel point (List.mem_append_right _ hpoint)
  have hread : readSlaveData fuel read config = .returned { attributes, telemetry } := by
    rw [readSlaveData, hattributes, htelemetry]
  exact ⟨{ attributes, telemetry }, hread, hfirst, hsecond⟩

/-- The values of a poll are those of its sections. -/
theorem convertPoll_sections {expand : String → Int → String} {cleared : R} {memory : Int → Int → R}
    {data : SlaveData R} {config : UplinkConfig R V}
    (hattributes : (convertSection expand data.attributes config.attributes).1 =
      sectionValues expand cleared memory config.attributes)
    (htelemetry : (convertSection expand data.telemetry config.telemetry).1 =
      sectionValues expand cleared memory config.telemetry) :
    (convertPoll expand data config).1 = pollValues expand cleared memory config := by
  rw [convertPoll, pollValues, ← hattributes, ← htelemetry]
  cases convertSection expand data.attributes config.attributes with
  | mk result points => cases result <;> rfl

/-- A poll of a device that answers ends, and its values are those of the blocks of its
    datapoints, whatever the size of the requests. -/
theorem convertPoll_readSlaveData (expand : String → Int → String) {cleared : R} {memory : Int → Int → R}
    {read : ConfigSection → Nat → Int → Address → Int → Answer R}
    (hanswers : ∀ part, Answers cleared memory (read part)) {config : UplinkConfig R V}
    (hconfig : config.Readable) {fuel : Nat} (hfuel : config.Within fuel) :
    ∃ data, readSlaveData fuel read config = .returned data ∧
      (convertPoll expand data config).1 = pollValues expand cleared memory config := by
  obtain ⟨data, hread, hattributes, htelemetry⟩ :=
    readSlaveData_sections expand hanswers hconfig hfuel
  exact ⟨data, hread, convertPoll_sections hattributes htelemetry⟩

/-- The tags of wide datapoints have the address in them. -/
def UplinkConfig.Stable (config : UplinkConfig R V) : Prop :=
  ∀ point ∈ config.attributes ++ config.telemetry,
    Utils.isWideRangeRequest point.address = true → "address".toList <:+: point.tag.toList

/-- A configuration whose tags are settled is the same after a poll. -/
theorem convertPoll_config (expand : String → Int → String) (data : SlaveData R)
    {config : UplinkConfig R V} (hstable : config.Stable) :
    (convertPoll expand data config).2 = config := by
  have hattributes := @convertSection_config R V expand data.attributes config.attributes
    fun point hpoint => hstable point (List.mem_append_left _ hpoint)
  have htelemetry := @convertSection_config R V expand data.telemetry config.telemetry
    fun point hpoint => hstable point (List.mem_append_right _ hpoint)
  rw [convertPoll]
  cases hfirst : convertSection expand data.attributes config.attributes with
  | mk result points =>
    rw [hfirst] at hattributes
    obtain rfl : points = config.attributes := hattributes
    cases result with
    | error error => rfl
    | ok attributes =>
      dsimp only
      rw [htelemetry]

/-- The data of a poll of the device, as it was then. -/
def PolledFrom (cleared : R) (config : UplinkConfig R V) (memory : Int → Int → R)
    (data : SlaveData R) : Prop :=
  ∃ fuel read, (∀ part, Answers cleared memory (read part)) ∧ config.Within fuel ∧
    readSlaveData fuel read config = .returned data

/-- The polls of a batch are converted one by one, each with the registers it has read. -/
theorem convertPolls_eq (expand : String → Int → String) {cleared : R} {config : UplinkConfig R V}
    (hconfig : config.Readable) (hstable : config.Stable) {memories : List (Int → Int → R)}
    {polls : List (SlaveData R)} (hpolls : List.Forall₂ (PolledFrom cleared config) memories polls) :
    convertPolls expand polls config = (pollsValues expand cleared config memories, config) := by
  -- induction on the polls; the configuration is the same before each of them
  induction hpolls with
  | nil => rfl
  | @cons memory data memories polls hpoll hpolls ih =>
    obtain ⟨fuel, read, hanswers, hfuel, hread⟩ := hpoll
    obtain ⟨data', hread', hattributes, htelemetry⟩ :=
      readSlaveData_sections expand hanswers hconfig hfuel
    obtain rfl : data = data' := ReadEnd.returned.inj (hread.symm.trans hread')
    have hvalues := convertPoll_sections hattributes htelemetry
    have hkept := convertPoll_config expand data hstable
    -- what the poll read is what the memory holds for its datapoints
    rw [convertPolls, pollsValues, ← hvalues]
    cases hfirst : convertPoll expand data config with
    | mk result config' =>
      rw [hfirst] at hkept
      obtain rfl : config' = config := hkept
      -- an exception of the converter loses the poll and those behind it
      cases result with
      | error error => rfl
      | ok first =>
        dsimp only
        rw [ih]

/-- The last value of a key among these payloads. -/
def lastValue (payloads : List (String × V)) (key : String) : Option V :=
  (payloads.filter fun payload => payload.1 = key).getLast?.map Prod.snd

/-- The payload keeps the last value of a key. -/
theorem get?_collect (payloads : List (String × V)) (key : String) :
    (collect payloads).get? key = lastValue payloads key := by
  induction payloads using List.reverseRecOn with
  | nil => rfl
  | append_singleton payloads payload ih =>
    rw [collect, List.foldl_append, List.foldl_cons, List.foldl_nil, ← collect, Dict.get?_set,
      lastValue, List.filter_append]
    by_cases hkey : key = payload.1
    · simp [hkey]
    · rw [if_neg hkey, ih]
      have hother : ¬ payload.1 = key := fun heq => hkey heq.symm
      simp [lastValue, hother]

/-- What a batch of polls is converted to, and that the configuration is unchanged. -/
theorem convert_eq (expand : String → Int → String) {cleared : R} {config : UplinkConfig R V}
    (hconfig : config.Readable) (hstable : config.Stable) {memories : List (Int → Int → R)}
    {polls : List (SlaveData R)} (hpolls : List.Forall₂ (PolledFrom cleared config) memories polls) :
    convert expand polls config =
      ((pollsValues expand cleared config memories).map Payloads.converted, config) := by
  rw [convert, convertPolls_eq expand hconfig hstable hpolls]

/-- A batch of polls is converted to the values of its polls, the later ones in the place of the
    earlier ones with the same key. The configuration stays as it is. -/
theorem convert_polls (expand : String → Int → String) {cleared : R} {config : UplinkConfig R V}
    (hconfig : config.Readable) (hstable : config.Stable) {memories : List (Int → Int → R)}
    {polls : List (SlaveData R)} (hpolls : List.Forall₂ (PolledFrom cleared config) memories polls) :
    convert expand polls config =
      ((pollsValues expand cleared config memories).map Payloads.converted, config) ∧
    ∀ payloads, pollsValues expand cleared config memories = .ok payloads → ∀ key,
      payloads.converted.attributes.get? key = lastValue payloads.attributes key ∧
        payloads.converted.telemetry.get? key = lastValue payloads.telemetry key := by
  constructor
  · exact convert_eq expand hconfig hstable hpolls
  · intro payloads _ key
    exact ⟨get?_collect payloads.attributes key, get?_collect payloads.telemetry key⟩

/-! ## Polls that wait -/

/-- Responses are stored one by one. -/
theorem store_cons (data : SectionData R) (tag : String) (response : Response R)
    (responses : List (Response R)) :
    store (store data tag [response]) tag responses = store data tag (response :: responses) := by
  cases responses with
  | nil => rfl
  | cons second rest =>
    simp only [store, List.isEmpty_cons, Bool.false_eq_true, if_false, Dict.get?_set_self,
      Option.getD_some, Dict.set_set, List.append_assoc, List.cons_append, List.nil_append]

namespace Reading

variable {config : UplinkConfig R V} {r r' : Reading R}

/-- The rest of the section. -/
def finishSection (points : List (Point R V)) (r : Reading R) (data : SectionData R) :
    ReadEnd (SectionData R) :=
  match points[r.place]?, r.ranges with
  | none, _ => .returned data
  | some _, none => readSection r.fuel (r.read r.part) r.place (points.drop r.place) data
  | some point, some ranges =>
    let (responses, raised) := readRanges (r.read r.part r.place point.functionCode) ranges
    if raised then .raised
    else readSection r.fuel (r.read r.part) (r.place + 1) (points.drop (r.place + 1))
      (store data point.tag responses)

/-- The rest of the poll, when nothing comes in between any more. -/
def finish (config : UplinkConfig R V) (r : Reading R) : ReadEnd (SlaveData R) :=
  match r.part with
  | .attributes =>
    match r.finishSection config.attributes r.data.attributes with
    | .running => .running
    | .raised => .raised
    | .returned attributes =>
      match readSection r.fuel (r.read .telemetry) 0 config.telemetry r.data.telemetry with
      | .running => .running
      | .raised => .raised
      | .returned telemetry => .returned { attributes, telemetry }
  | .telemetry =>
    match r.finishSection config.telemetry r.data.telemetry with
    | .running => .running
    | .raised => .raised
    | .returned telemetry => .returned { r.data with telemetry }

/-- Between two datapoints the rest of the section is what `readSection` reads. -/
theorem finishSection_none (points : List (Point R V)) {r : Reading R} (h : r.ranges = none)
    (data : SectionData R) : r.finishSection points data =
      readSection r.fuel (r.read r.part) r.place (points.drop r.place) data := by
  unfold finishSection
  rw [h]
  cases hpoint : points[r.place]? with
  | some point => rfl
  | none =>
    rw [List.drop_of_length_le (List.getElem?_eq_none_iff.mp hpoint)]
    rfl

/-- A poll that has not begun and is finished without a break is a poll in one go. -/
theorem finish_start (fuel : Nat)
    (read : ConfigSection → Nat → Int → Address → Int → Answer R) (config : UplinkConfig R V) :
    (start fuel read).finish config = readSlaveData fuel read config := by
  have hfirst := finishSection_none config.attributes (r := start fuel read) rfl []
  unfold finish readSlaveData
  dsimp only [start] at hfirst ⊢
  rewrite [hfirst, List.drop_zero]
  rfl

/-- Behind a datapoint that is skipped. -/
theorem finishSection_skip (points : List (Point R V)) (r : Reading R) (data : SectionData R) :
    r.skip.finishSection points data =
      readSection r.fuel (r.read r.part) (r.place + 1) (points.drop (r.place + 1)) data :=
  finishSection_none points rfl data

section Datapoint

variable {points : List (Point R V)} {point : Point R V} (hpoint : points[r.place]? = some point)
  (data : SectionData R)

include hpoint

/-- The datapoint a poll stands at is the first of those that are left. -/
theorem drop_place : points.drop r.place = point :: points.drop (r.place + 1) := by
  obtain ⟨hlt, rfl⟩ := List.getElem?_eq_some_iff.mp hpoint
  exact List.drop_eq_getElem_cons hlt

/-- Within a datapoint its requests come before the rest of the section. -/
theorem finishSection_some {ranges : List (Address × Int)} (hranges : r.ranges = some ranges)
    {responses : List (Response R)}
    (hread : readRanges (r.read r.part r.place point.functionCode) ranges = (responses, false)) :
    r.finishSection points data = r.skip.finishSection points (store data point.tag responses) := by
  rw [finishSection_skip, finishSection, hpoint, hranges]
  simp only [hread, Bool.false_eq_true, if_false]

/-- To look up the ranges of a datapoint first changes nothing. -/
theorem finishSection_begin (hnone : r.ranges = none) {ranges : List (Address × Int)}
    (hranges : getAddressRanges r.fuel point = some (.ok ranges)) :
    { r with ranges := some ranges }.finishSection points data = r.finishSection points data := by
  rw [finishSection_none points hnone, drop_place hpoint, readSection, hranges, finishSection,
    hpoint]

/-- A datapoint that cannot be parsed is passed over, in a poll that waits too. -/
theorem finishSection_error (hnone : r.ranges = none) {error : Exn}
    (hranges : getAddressRanges r.fuel point = some (.error error))
    (herror : error.isValueError = true) :
    r.skip.finishSection points data = r.finishSection points data := by
  rw [finishSection_none points hnone, drop_place hpoint, readSection, hranges, finishSection_skip]
  simp only [herror, if_true]

/-- A response that is stored is one the rest no longer has. -/
theorem finishSection_response {startAddress : Address} {objectsCount : Int}
    {ranges : List (Address × Int)} (hranges : r.ranges = some ((startAddress, objectsCount) :: ranges))
    {response : Response R} (hread : r.read r.part r.place point.functionCode startAddress
      objectsCount = .response response) :
    { r with ranges := some ranges }.finishSection points (store data point.tag [response]) =
      r.finishSection points data := by
  simp only [finishSection, hpoint, hranges, readRanges, hread, store_cons]

end Datapoint

/-- What is done within a section leaves the rest of the poll as it was. -/
theorem finish_congr {config : UplinkConfig R V} {r r' : Reading R} (hfuel : r'.fuel = r.fuel)
    (hread : r'.read = r.read) (hpart : r'.part = r.part)
    (hattributes : r.part = .attributes → r'.data.telemetry = r.data.telemetry ∧
      r'.finishSection config.attributes r'.data.attributes =
        r.finishSection config.attributes r.data.attributes)
    (htelemetry : r.part = .telemetry → r'.data.attributes = r.data.attributes ∧
      r'.finishSection config.telemetry r'.data.telemetry =
        r.finishSection config.telemetry r.data.telemetry) :
    r'.finish config = r.finish config := by
  unfold finish
  rw [hpart]
  cases hcase : r.part with
  | attributes =>
    obtain ⟨hdata, hsection⟩ := hattributes hcase
    simp only [hsection, hfuel, hread, hdata]
  | telemetry =>
    obtain ⟨hdata, hsection⟩ := htelemetry hcase
    simp only [hsection, hdata]

/-- The same where the data stays as it is. -/
theorem finish_congr_section {config : UplinkConfig R V} {r r' : Reading R}
    (hfuel : r'.fuel = r.fuel) (hread : r'.read = r.read) (hpart : r'.part = r.part)
    (hdata : r'.data = r.data) (hsection : ∀ data,
      r'.finishSection (config.points r.part) data = r.finishSection (config.points r.part) data) :
    r'.finish config = r.finish config := by
  refine finish_congr hfuel hread hpart (fun hcase => ?_) fun hcase => ?_
  all_goals
    rw [hcase] at hsection
    exact ⟨by rw [hdata], by rw [hdata]; exact hsection _⟩

/-- As long as the configuration stays the same, nothing that `__read_slave_data` does changes what
    it will have read. -/
theorem finish_next (h : r.next config = .returned (.inl r')) :
    r'.finish config = r.finish config := by
  unfold next at h
  -- the cursor is past the end of a section, or at a datapoint
  cases hpoint : (config.points r.part)[r.place]? with
  | none =>
    rw [hpoint] at h
    cases hpart : r.part with
    | telemetry => rw [hpart] at h; cases h
    -- past the attributes the telemetry begins, from its first datapoint
    | attributes =>
      simp only [hpart, ReadEnd.returned.injEq, Sum.inl.injEq] at h
      subst h
      rw [hpart] at hpoint
      have hsection := finishSection_none config.telemetry
        (r := { r with part := .telemetry, place := 0, ranges := none }) rfl r.data.telemetry
      have hover : r.finishSection config.attributes r.data.attributes =
          .returned r.data.attributes := by
        rw [finishSection, show config.attributes[r.place]? = none from hpoint]
      unfold finish
      rw [hpart, hover]
      dsimp only
      rw [hsection, List.drop_zero]
  | some point =>
    rw [hpoint] at h
    -- at a datapoint without ranges `get_address_ranges` is called
    cases hranges : r.ranges with
    | none =>
      simp only [hranges] at h
      split at h
      · cases h
      -- its `ValueError` is logged and the datapoint skipped
      · next herror =>
        split at h
        · next hvalue =>
          obtain rfl := Sum.inl.inj (ReadEnd.returned.inj h)
          exact finish_congr_section rfl rfl rfl rfl fun data =>
            finishSection_error hpoint data hranges herror hvalue
        · cases h
      · next hok =>
        obtain rfl := Sum.inl.inj (ReadEnd.returned.inj h)
        exact finish_congr_section rfl rfl rfl rfl fun data =>
          finishSection_begin hpoint data hranges hok
    -- then the ranges are read one by one
    | some ranges =>
      cases ranges with
      -- after the last of them comes the next datapoint
      | nil =>
        simp only [hranges, ReadEnd.returned.injEq, Sum.inl.injEq] at h
        subst h
        exact finish_congr_section rfl rfl rfl rfl fun data =>
          (finishSection_some hpoint data hranges rfl).symm
      | cons range ranges =>
        obtain ⟨startAddress, objectsCount⟩ := range
        simp only [hranges] at h
        -- a request that fails ends the datapoint, with what it has read so far
        have hskip : ∀ {answer : Answer R}, r.read r.part r.place point.functionCode startAddress
            objectsCount = answer → (answer = .timeout ∨ answer = .valueError) →
            r.skip.finish config = r.finish config := by
          intro answer hanswer hcaught
          have hread : readRanges (r.read r.part r.place point.functionCode)
              ((startAddress, objectsCount) :: ranges) = ([], false) := by
            rw [readRanges, hanswer]
            rcases hcaught with rfl | rfl <;> rfl
          exact finish_congr_section rfl rfl rfl rfl fun data =>
            (finishSection_some hpoint data hranges hread).symm
        split at h
        -- a response is stored in the section the cursor is in
        · next response hresponse =>
          obtain rfl := Sum.inl.inj (ReadEnd.returned.inj h)
          refine finish_congr rfl rfl rfl (fun hpart => ?_) fun hpart => ?_
          all_goals
            have hstored := fun data => finishSection_response hpoint data hranges hresponse
            rw [hpart] at hstored
            dsimp only
            rw [hpart]
            exact ⟨rfl, hstored _⟩
        · next htimeout =>
          obtain rfl := Sum.inl.inj (ReadEnd.returned.inj h)
          exact hskip htimeout (.inl rfl)
        · next hvalue =>
          obtain rfl := Sum.inl.inj (ReadEnd.returned.inj h)
          exact hskip hvalue (.inr rfl)
        · cases h

/-- And at its end it has read it. -/
theorem finish_of_next {data : SlaveData R} (h : r.next config = .returned (.inr data)) :
    r.finish config = .returned data := by
  unfold next at h
  -- only past the telemetry does the read return
  cases hpoint : (config.points r.part)[r.place]? with
  | none =>
    rw [hpoint] at h
    cases hpart : r.part with
    | attributes => rw [hpart] at h; cases h
    | telemetry =>
      simp only [hpart, ReadEnd.returned.injEq, Sum.inr.injEq] at h
      subst h
      rw [hpart] at hpoint
      simp only [finish, hpart, finishSection,
        show config.telemetry[r.place]? = none from hpoint]
  | some point =>
    rw [hpoint] at h
    -- at a datapoint every branch goes on or raises
    cases hranges : r.ranges with
    | none =>
      simp only [hranges] at h
      split at h
      · cases h
      · split at h <;> cases h
      · cases h
    | some ranges =>
      cases ranges with
      | nil => simp only [hranges, ReadEnd.returned.injEq, reduceCtorEq] at h
      | cons range ranges =>
        simp only [hranges] at h
        split at h <;> cases h

end Reading

/-! ## Failed chunks -/

/-- The converter takes the registers of the answered chunks for those from the beginning of the
    range on. That is where they are exactly when the failed chunks are the last ones. -/
theorem processWideRangeResponse_missing (expand : String → Int → String) (cleared : R)
    (memory : Int → Int → R) {config : Point R V} {s : String} {first last : Int}
    (haddress : config.address = .text s)
    (hparse : Utils.parseWideRangeAddress s = .ok (first, last))
    (hcode : config.functionCode ∈ [1, 2, 3, 4])
    (hmax : 0 < config.maxRegistersPerRequest.getD 16) (hwhole : config.Whole) {response : Int × Nat → Response R}
    (hresponse : ∀ p, (response p).valid = true →
      response p = .registers (config.received cleared memory p)) :
    processWideRangeResponse expand config (some (config.requests.map response)) =
      processWideRangeResponseEncodedData expand config
        ((covered (config.requests.filter fun p => (response p).valid)).map
          (memory config.functionCode)) ∧
    (covered (config.requests.filter fun p => (response p).valid) =
        addresses first (total (config.requests.filter fun p => (response p).valid)) ↔
      config.requests.filter (fun p => (response p).valid) <+: config.requests) := by
  constructor
  -- what is converted is the registers of the valid responses, in their order
  · have hvalid : (config.requests.map response).filter Response.valid =
        ((config.requests.filter fun p => (response p).valid).map fun p =>
          Response.registers (config.block memory p)).filter Response.valid := by
      rw [List.filter_map, List.filter_map]
      have hall : (config.requests.filter fun p => (response p).valid).filter
          (Response.valid ∘ fun p => Response.registers (config.block memory p)) =
          config.requests.filter fun p => (response p).valid :=
        List.filter_eq_self.mpr fun p _ => rfl
      rw [hall]
      refine List.map_congr_left fun p hp => ?_
      obtain ⟨hmem, hok⟩ := List.mem_filter.mp hp
      rw [hresponse p hok, hwhole.received_eq haddress cleared memory hmem]
    rw [processWideRangeResponse, hvalid, mapM_registers hcode]
    dsimp only
    rw [flatten_blocks]
  -- they lie behind one another exactly when no response before a valid one is missing
  · have hrequests : config.requests = pieces (config.maxRegistersPerRequest.getD 16).toNat
        first (last - first + config.objectsCount.getD 1).toNat := by
      simp [Point.requests, haddress, hparse]
    have htiled : Tiled first config.requests := by
      rw [hrequests]
      exact tiled_pieces (by omega) first _
    exact htiled.covered_sublist_eq_iff List.filter_sublist

/-! ## Meters -/

section Decoder

open BytesModbusUplinkConverter

variable (convert : List UInt16 → RegisterType → Py Scalar) (config : RegisterConfig)
  (byteOrder wordOrder : Endian)

/-- The decoder knows the type. -/
private def Known : Prop :=
  lower config.type = "8int" ∨ lower config.type = "8uint" ∨ resolvedType config = "16float" ∨
    decoderTypes.get? (resolvedType config) ≠ none

/-- The decoder of a known type gives a value or fails. -/
private theorem decodeFromRegisters_known (h : Known config) (xs : List UInt16) :
    decodeFromRegisters convert xs config byteOrder wordOrder ≠ .ok none := by
  intro hnone
  unfold decodeFromRegisters at hnone
  -- each branch of the decoder returns a value or raises
  dsimp only at hnone
  split at hnone
  · split at hnone <;> cases hnone
  case isFalse height =>
    split at hnone
    · split at hnone <;> cases hnone
    case isFalse hfloat =>
      split at hnone
      case h_1 htype =>
        -- but the last, which returns `None` for a type it does not know
        obtain h8 | h8 | h16 | hsome := h
        · exact height (.inl h8)
        · exact height (.inr h8)
        · exact hfloat h16
        · exact hsome htype
      case h_2 =>
        simp only [Except.bind_eq_ok, Except.pure_eq_ok] at hnone
        obtain ⟨scalar, -, hscalar⟩ := hnone
        cases hscalar

/-- Any other type is decoded to nothing. -/
private theorem decodeFromRegisters_unknown (h : ¬ Known config) (xs : List UInt16) :
    decodeFromRegisters convert xs config byteOrder wordOrder = .ok none := by
  simp only [Known, not_or, ne_eq, not_not] at h
  obtain ⟨h8int, h8uint, h16, hnone⟩ := h
  unfold decodeFromRegisters
  dsimp only
  rw [if_neg (by simp [h8int, h8uint]), if_neg h16, hnone]
  rfl

/-- The arithmetic on a value needs a value, and gives one. -/
private theorem arithmetic_some {decoded : Option Exact} {f : Exact → Exact}
    {result : Option Exact} (h : arithmetic decoded f = .ok result) :
    decoded.isSome = true ∧ result.isSome = true := by
  cases decoded with
  | none => cases h
  | some x =>
    obtain rfl := Except.ok.inj h
    exact ⟨rfl, rfl⟩

/-- What is decoded from the registers has a value exactly when the type is known. -/
private theorem decodeData_isSome {xs : List UInt16} {result : Option Exact}
    (h : decodeData convert xs config byteOrder wordOrder = .ok result) :
    ∃ decoded, decodeFromRegisters convert xs config byteOrder wordOrder = .ok decoded ∧
      result.isSome = decoded.isSome := by
  unfold decodeData at h
  obtain ⟨decoded, hdecoded, h⟩ := Except.bind_eq_ok.mp h
  refine ⟨decoded, hdecoded, ?_⟩
  rw [← @Option.isSome_map _ _ (formatDecoded config) decoded]
  dsimp only at h
  -- the arithmetic raises on `None`, and leaves a number otherwise
  split at h
  · obtain ⟨scaled, hscaled, h⟩ := Except.bind_eq_ok.mp h
    have hboth := arithmetic_some hscaled
    split at h
    · rw [(arithmetic_some h).2, hboth.1]
    · rw [← Except.pure_eq_ok.mp h, hboth.1, hboth.2]
  -- a divider and a multiplier are two branches of the source, with the same two steps
  · split at h
    · obtain ⟨scaled, hscaled, h⟩ := Except.bind_eq_ok.mp h
      have hboth := arithmetic_some hscaled
      split at h
      · rw [(arithmetic_some h).2, hboth.1]
      · rw [← Except.pure_eq_ok.mp h, hboth.1, hboth.2]
    · obtain ⟨scaled, hscaled, h⟩ := Except.bind_eq_ok.mp h
      rw [Except.pure_eq_ok.mp hscaled]
      split at h
      · rw [(arithmetic_some h).2, (arithmetic_some h).1]
      · rw [Except.pure_eq_ok.mp h]

/-- The decoder of registers knows a type or it does not. -/
theorem decodeData_steady :
    (∀ xs, decodeData convert xs config byteOrder wordOrder ≠ .ok none) ∨
    ∀ xs v, decodeData convert xs config byteOrder wordOrder ≠ .ok (some v) := by
  by_cases hknown : Known config
  · refine .inl fun xs h => ?_
    obtain ⟨decoded, hdecoded, hsome⟩ := decodeData_isSome convert config byteOrder wordOrder h
    cases decoded with
    | none => exact decodeFromRegisters_known convert config byteOrder wordOrder hknown xs hdecoded
    | some x => cases hsome
  · refine .inr fun xs v h => ?_
    obtain ⟨decoded, hdecoded, hsome⟩ := decodeData_isSome convert config byteOrder wordOrder h
    rw [decodeFromRegisters_unknown convert config byteOrder wordOrder hknown xs] at hdecoded
    obtain rfl := Except.ok.inj hdecoded
    cases hsome

end Decoder

/-- A register with an unsigned number. -/
def uint16Register : RegisterConfig where
  type := "16uint"
  objectsCount := some 1
  registersCount := none
  registerCount := none
  divider := none
  multiplier := none
  offset := none
  round := none
  numeric := by decide

/-- Three registers of a meter from address 10 on, two in one request. -/
def meterPoint : Point UInt16 Exact where
  tag := "register_$\x7baddress\x7d"
  address := .text "10-12"
  functionCode := 3
  objectsCount := some 1
  maxRegistersPerRequest := some 2
  decodeData xs := BytesModbusUplinkConverter.decodeData
    (fun ws t => .ok (unpack t.format (BigEndian.ofWords ws))) xs uint16Register .big .big

/-- The datapoint of the example can be read. -/
private theorem meterPoint_readable : meterPoint.Readable where
  address s h := by
    cases h
    decide
  functionCode := by decide
  objectsCount h := by cases h
  maxRegistersPerRequest := by decide
  whole _ _ _ _ := rfl
  steady := decodeData_steady _ _ _ _

def meter : UplinkConfig UInt16 Exact := { attributes := [], telemetry := [meterPoint] }

/-- And so can all of its meter. -/
private theorem meter_readable : meter.Readable where
  attributes _ h := absurd h List.not_mem_nil
  telemetry _ h := List.mem_singleton.mp h ▸ meterPoint_readable
  attributeTags := List.nodup_nil
  telemetryTags := List.nodup_singleton _

/-- The register at address `a` holds `first + a`. -/
def holding (first : UInt16) (_ address : Int) : UInt16 :=
  first + UInt16.ofNat address.toNat

def answering (first : UInt16) (_ : ConfigSection) (_ : Nat) (functionCode : Int) :
    Address → Int → Answer UInt16
  | .number start, n =>
    .response (.registers ((addresses start n.toNat).map (holding first functionCode) ++
      List.replicate (padding functionCode n.toNat) 0))
  | .text _, _ => .raised

def replaceAddress (tag : String) (address : Int) : String := tag ++ toString address

/-- The device of the example answers every request in full. -/
private theorem answering_answers (first : UInt16) (part : ConfigSection) :
    Answers 0 (holding first) (answering first part) :=
  fun _ _ _ _ => rfl

/-- Three turns are enough to split its addresses. -/
private theorem meter_within : meter.Within 3 := by
  intro point hpoint
  have hmeter : point = meterPoint := List.mem_singleton.mp hpoint
  rw [hmeter]
  decide

/-- A poll of the meter and what it is converted to. -/
theorem convertPoll_readSlaveData_meter :
    ∃ data, readSlaveData 3 (answering 100) meter = .returned data ∧
      (convertPoll replaceAddress data meter).1 = pollValues replaceAddress 0 (holding 100) meter :=
  convertPoll_readSlaveData replaceAddress (answering_answers 100) meter_readable meter_within

/-- The tags of the meter are settled. -/
private theorem meter_stable : meter.Stable := by
  intro point hpoint hwide
  have hmeter : point = meterPoint := List.mem_singleton.mp hpoint
  rw [hmeter]
  exact ⟨"register_$\x7b".toList, ['\x7d'], rfl⟩

/-- Two polls of the meter in one batch. -/
theorem convert_polls_meter :
    ∃ first second, readSlaveData 3 (answering 100) meter = .returned first ∧
      readSlaveData 3 (answering 200) meter = .returned second ∧
      convert replaceAddress [first, second] meter =
        ((pollsValues replaceAddress 0 meter [holding 100, holding 200]).map Payloads.converted,
          meter) ∧
      ∀ payloads, pollsValues replaceAddress 0 meter [holding 100, holding 200] = .ok payloads →
        ∀ key, payloads.converted.attributes.get? key = lastValue payloads.attributes key ∧
          payloads.converted.telemetry.get? key = lastValue payloads.telemetry key := by
  obtain ⟨first, hfirst, -, -⟩ := readSlaveData_sections replaceAddress
    (answering_answers 100) meter_readable meter_within
  obtain ⟨second, hsecond, -, -⟩ := readSlaveData_sections replaceAddress
    (answering_answers 200) meter_readable meter_within
  exact ⟨first, second, hfirst, hsecond, convert_polls replaceAddress meter_readable meter_stable
    (.cons ⟨3, answering 100, answering_answers 100, meter_within, hfirst⟩
      (.cons ⟨3, answering 200, answering_answers 200, meter_within, hsecond⟩ .nil))⟩

/-- The first of the two chunks fails. -/
def firstMissing (p : Int × Nat) : Response UInt16 :=
  if p.1 = 10 then .missing else .registers (meterPoint.block (holding 100) p)

/-- The meter when the first of its two requests fails. -/
theorem processWideRangeResponse_missing_meter :
    processWideRangeResponse replaceAddress meterPoint
        (some (meterPoint.requests.map firstMissing)) =
      processWideRangeResponseEncodedData replaceAddress meterPoint
        ((covered (meterPoint.requests.filter fun p => (firstMissing p).valid)).map
          (holding 100 meterPoint.functionCode)) ∧
    (covered (meterPoint.requests.filter fun p => (firstMissing p).valid) =
        addresses 10 (total (meterPoint.requests.filter fun p => (firstMissing p).valid)) ↔
      meterPoint.requests.filter (fun p => (firstMissing p).valid) <+: meterPoint.requests) := by
  refine @processWideRangeResponse_missing UInt16 Exact replaceAddress 0 (holding 100) meterPoint
    "10-12" 10 12 rfl rfl (by decide) (by decide) (fun _ _ _ _ => rfl) firstMissing
    fun p hvalid => ?_
  unfold firstMissing at hvalid ⊢
  split at hvalid
  · cases hvalid
  case isFalse hother =>
    rw [if_neg hother, Point.received, show padding meterPoint.functionCode p.2 = 0 from rfl,
      List.replicate_zero, List.append_nil]

/-- Twenty coils, ten in one request. -/
def coils : Point Bool Bool where
  tag := "address_"
  address := .text "0-19"
  functionCode := 1
  objectsCount := some 1
  maxRegistersPerRequest := some 10
  decodeData xs := .ok xs.head?

/-- Of these the one at address 10 is on. It is the first of the second response, behind the six
    bits that complete the first one, and is reported at 16. -/
example : ∃ values, (processWideRangeResponse replaceAddress coils
      (some (coils.responses false fun _ address => decide (address = 10)))).1 = .ok values ∧
    values.filter Prod.snd = [("address_16", true)] :=
  ⟨_, rfl, by decide +kernel⟩

end Novena.Modbus
