import InverterBridge.Proofs.Modbus.Memory
import InverterBridge.Proofs.Modbus.Records

/-!
# The requests of a run of registers

A run of registers is read with requests that tile it: in order, without a gap and without an
overlap (`ReadRequest.tile_pieces`).  `ReadingEnds` says how such a reading may end, whatever the
other side answers, and `ModbusGateway.ReadsInOrder` what this means for the registers.

The pieces of a run are computed in natural numbers.  `readWords` is the same loop in 16-bit
words, which wrap; it comes to the same, because no sum and no difference of it wraps.
-/

namespace InverterBridge

variable {δ : Type}

/-! ## Tiles -/

namespace ReadRequest

/-- Requests in order that cover the registers from one address up to another one, each of them
a number of registers that one request may ask for. -/
inductive Tile : Nat → List ReadRequest → Nat → Prop
  | nil (address : Nat) : Tile address [] address
  | cons {request : ReadRequest} {requests : List ReadRequest} {last : Nat}
      (positive : 0 < request.count) (few : request.count ≤ maxRead)
      (rest : Tile (request.address + request.count) requests last) :
      Tile request.address (request :: requests) last

theorem tile_cons_iff {request : ReadRequest} {requests : List ReadRequest} {first last : Nat} :
    Tile first (request :: requests) last ↔
      first = request.address ∧ 0 < request.count ∧ request.count ≤ maxRead ∧
        Tile (request.address + request.count) requests last := by
  constructor
  · rintro ⟨⟩
    exact ⟨rfl, ‹_›, ‹_›, ‹_›⟩
  · rintro ⟨rfl, positive, few, rest⟩
    exact .cons positive few rest

theorem Tile.sum_count {requests : List ReadRequest} {first last : Nat}
    (tile : Tile first requests last) :
    first + (requests.map ReadRequest.count).sum = last := by
  induction tile with
  | nil address => rfl
  | cons positive few rest ih => rw [← ih, List.map_cons, List.sum_cons, Nat.add_assoc]

/-- No request of a tiling goes past its end. -/
theorem Tile.end_le {requests : List ReadRequest} {first last : Nat}
    (tile : Tile first requests last) {request : ReadRequest} (mem : request ∈ requests) :
    request.address + request.count ≤ last := by
  induction tile with
  | nil address => contradiction
  | cons positive few rest ih =>
      rcases List.mem_cons.mp mem with rfl | later
      · exact rest.sum_count ▸ Nat.le_add_right _ _
      · exact ih later

/-- A tiling that is cut somewhere: both parts are tilings. -/
theorem Tile.split {taken requests : List ReadRequest} {first last : Nat}
    (tile : Tile first (taken ++ requests) last) :
    ∃ middle, Tile first taken middle ∧ Tile middle requests last := by
  induction taken generalizing first with
  | nil => exact ⟨first, .nil first, tile⟩
  | cons request taken ih =>
      rcases tile_cons_iff.mp tile with ⟨rfl, positive, few, rest⟩
      rcases ih rest with ⟨middle, before, after⟩
      exact ⟨middle, .cons positive few before, after⟩

/-- The first piece of a run, and the pieces of what is left of it. -/
theorem pieces_of_pos {count : Nat} (positive : 0 < count) (address : Nat) :
    pieces address count =
      ⟨address, min maxRead count⟩ ::
        pieces (address + min maxRead count) (count - min maxRead count) := by
  by_cases short : count ≤ maxRead
  · rw [Nat.min_eq_right short, Nat.sub_self, pieces_zero, pieces_of_le positive short]
  · have long : maxRead ≤ count := Nat.le_of_not_le short
    have more : (count + (maxRead - 1)) / maxRead =
        (count - maxRead + (maxRead - 1)) / maxRead + 1 := by
      simp only [maxRead] at long ⊢
      omega
    rw [pieces, more, List.range_succ_eq_map, List.map_cons, List.map_map, Nat.min_eq_left long,
      pieces]
    congr 1
    · simp [Nat.min_eq_left long]
    · apply List.map_congr_left
      intro piece _
      simp only [Function.comp, Nat.succ_eq_add_one, maxRead, mk.injEq]
      omega

/-- The pieces of a run tile it. -/
theorem tile_pieces (address count : Nat) :
    Tile address (pieces address count) (address + count) := by
  induction count using Nat.strong_induction_on generalizing address with
  | _ count ih =>
      rcases Nat.eq_zero_or_pos count with rfl | positive
      · rw [pieces_zero]
        exact .nil address
      · rw [pieces_of_pos positive]
        have some : 0 < min maxRead count := Nat.lt_min.mpr ⟨by decide, positive⟩
        have rest := ih (count - min maxRead count) (Nat.sub_lt positive some)
          (address + min maxRead count)
        rw [Nat.add_assoc, Nat.add_sub_of_le (Nat.min_le_right _ _)] at rest
        exact tile_cons_iff.mpr ⟨rfl, some, Nat.min_le_left _ _, rest⟩

end ReadRequest

/-! ## Answers -/

namespace Exchange

/-- As many registers have come back as were asked for. -/
def Whole (exchange : Exchange) : Prop :=
  ∃ values, exchange.reply = .registers values ∧ values.length = exchange.request.count

/-- The registers that have come back. -/
def values (exchange : Exchange) : List UInt16 :=
  match exchange.reply with
  | .registers values => values
  | _ => []

theorem not_whole_of_accept {request : ReadRequest} {timeout : Duration} {reply : ReadReply}
    {error : GatewayError} (refused : request.accept timeout reply = .error error) :
    ¬ Whole ⟨request, reply⟩ := by
  rintro ⟨values, replied, length⟩
  rw [show reply = .registers values from replied, ReadRequest.accept_registers length] at refused
  contradiction

/-- What a memory shows is its registers. -/
theorem Shows.values_eq {memory : Nat → UInt16} {exchange : Exchange}
    (shows : exchange.Shows memory) :
    exchange.values =
      (List.range exchange.request.count).map fun index =>
        memory (exchange.request.address + index) := by
  rw [values, shows]

end Exchange

namespace Reads

variable {requests : List ReadRequest} {registers : List UInt16} {exchanges : List Exchange}

/-- What has been asked for. -/
theorem requests_eq (reads : Reads requests registers exchanges) :
    exchanges.map Exchange.request = requests := by
  induction reads with
  | nil => rfl
  | cons whole rest ih => rw [List.map_cons, ih]

theorem whole (reads : Reads requests registers exchanges) :
    ∀ exchange ∈ exchanges, exchange.Whole := by
  induction reads with
  | nil => simp
  | cons whole rest ih =>
      intro exchange mem
      rcases List.mem_cons.mp mem with rfl | later
      · exact ⟨_, rfl, whole⟩
      · exact ih exchange later

/-- What has come back, in order. -/
theorem registers_eq (reads : Reads requests registers exchanges) :
    registers = exchanges.flatMap Exchange.values := by
  induction reads with
  | nil => rfl
  | cons whole rest ih => rw [List.flatMap_cons, ← ih]; rfl

end Reads

/-- The registers that a tiling brings from a memory are those of the memory. -/
theorem ReadRequest.Tile.flatMap_values {memory : Nat → UInt16} {exchanges : List Exchange}
    {first last : Nat} (tile : Tile first (exchanges.map Exchange.request) last)
    (shown : ∀ exchange ∈ exchanges, exchange.Shows memory) :
    exchanges.flatMap Exchange.values =
      (List.range (last - first)).map fun index => memory (first + index) := by
  induction exchanges generalizing first with
  | nil =>
      cases tile
      simp
  | cons exchange exchanges ih =>
      rcases tile_cons_iff.mp tile with ⟨rfl, -, -, rest⟩
      have later := ih rest fun other mem => shown other (List.mem_cons_of_mem _ mem)
      have here := (shown exchange List.mem_cons_self).values_eq
      have length : last - exchange.request.address = exchange.request.count +
          (last - (exchange.request.address + exchange.request.count)) := by
        have := rest.sum_count
        omega
      rw [List.flatMap_cons, later, here, length, List.range_add, List.map_append, List.map_map]
      simp only [Function.comp_def, Nat.add_assoc]

/-! ## How a reading ends -/

/-- What may come of requests in a row that begin at `start`: the exchanges, and the result.

The requests before the end are all answered in full, and nothing is sent after it. -/
inductive ReadingEnds (timeout : Duration) (start : Nat) (requests : List ReadRequest) :
    List Exchange → GatewayResult (List UInt16) → Prop
  /-- Everything has been read. -/
  | whole {registers : List UInt16} {exchanges : List Exchange}
      (reads : Reads requests registers exchanges) :
      ReadingEnds timeout start requests exchanges (.ok registers)
  /-- A request is not answered in full. -/
  | refused {taken later : List ReadRequest} {request : ReadRequest} {registers : List UInt16}
      {exchanges : List Exchange} {reply : ReadReply} {error : GatewayError}
      (requests_eq : requests = taken ++ request :: later)
      (reads : Reads taken registers exchanges)
      (refused : request.accept timeout reply = .error error) :
      ReadingEnds timeout start requests (exchanges ++ [⟨request, reply⟩]) (.error error)
  /-- The next request would begin behind the last register. -/
  | beyond {taken later : List ReadRequest} {request : ReadRequest} {registers : List UInt16}
      {exchanges : List Exchange} (requests_eq : requests = taken ++ request :: later)
      (reads : Reads taken registers exchanges) (outside : addressBound ≤ request.address) :
      ReadingEnds timeout start requests exchanges
        (.error (beyondRegisters start (request.address - start)))

theorem ReadingEnds.cons {timeout : Duration} {start : Nat} {request : ReadRequest}
    {requests : List ReadRequest} {values : List UInt16} {exchanges : List Exchange}
    {result : GatewayResult (List UInt16)} (whole : values.length = request.count)
    (ends : ReadingEnds timeout start requests exchanges result) :
    ReadingEnds timeout start (request :: requests)
      (⟨request, .registers values⟩ :: exchanges) (result.map (values ++ ·)) := by
  cases ends with
  | whole reads => exact .whole (.cons whole reads)
  | refused same reads refused =>
      exact .refused (congrArg (request :: ·) same) (.cons whole reads) refused
  | beyond same reads outside =>
      exact .beyond (congrArg (request :: ·) same) (.cons whole reads) outside

theorem readingEnds_readPieces (wire : Wire δ) (unit : UInt8) (timeout : Duration) (start : Nat)
    (requests : List ReadRequest) (logged : LoggedLine δ) :
    ∃ news,
      (readPieces (wire.logged.send unit) timeout start requests logged).2.log =
        logged.log ++ news ∧
      ReadingEnds timeout start requests news
        (readPieces (wire.logged.send unit) timeout start requests logged).1 := by
  induction requests generalizing logged with
  | nil => exact ⟨[], by simp, .whole .nil⟩
  | cons request requests ih =>
      unfold readPieces
      split
      next inside =>
        let sent := wire.logged.send unit request logged
        have first : sent.2.log = logged.log ++ [⟨request, sent.1⟩] := rfl
        cases accepted : request.accept timeout sent.1 with
        | error error =>
            simp only [sent, accepted]
            exact ⟨_, first, .refused (List.nil_append _).symm .nil accepted⟩
        | ok values =>
            rcases ih sent.2 with ⟨news, grown, ends⟩
            have replied : sent.1 = .registers values :=
              ReadRequest.eq_registers_of_accept accepted
            simp only [sent, accepted]
            refine ⟨⟨request, .registers values⟩ :: news, ?_,
              ends.cons (ReadRequest.length_of_accept accepted)⟩
            rw [grown, first, replied, List.append_assoc]
            rfl
      next outside =>
        exact ⟨[], by simp, .beyond (List.nil_append _).symm .nil (Nat.le_of_not_lt outside)⟩

namespace ModbusGateway

/-- The exchanges with which a run of registers is read. -/
def readExchanges (wire : Wire δ) (address count : Nat) (gateway : ModbusGateway δ) :
    List Exchange :=
  (gateway.logged.read wire.logged address count).2.line.log

theorem fst_read_logged (wire : Wire δ) (address count : Nat) (gateway : ModbusGateway δ) :
    (gateway.read wire address count).1 = (gateway.logged.read wire.logged address count).1 :=
  congrArg Prod.fst (read_forget wire gateway.logged address count)

/-- Without a link nothing is sent; over a link that is up a reading ends in one of three ways. -/
theorem read_cases (wire : Wire δ) (address count : Nat) (gateway : ModbusGateway δ) :
    (gateway.readExchanges wire address count = [] ∧
        ((gateway.supervisor.shuttingDown = true ∧
            (gateway.read wire address count).1 = .error .shuttingDown) ∨
          (gateway.supervisor.shuttingDown = false ∧ gateway.supervisor.linked = false ∧
            (gateway.read wire address count).1 = .error (.transient .notConnected)))) ∨
      (gateway.supervisor.shuttingDown = false ∧ gateway.supervisor.linked = true ∧
        ReadingEnds gateway.device.timeout address (ReadRequest.pieces address count)
          (gateway.readExchanges wire address count) (gateway.read wire address count).1) := by
  rw [fst_read_logged]
  unfold readExchanges read
  split
  next ended => exact .inl ⟨rfl, .inl ⟨ended, rfl⟩⟩
  next running =>
    split
    next linked =>
      rcases readingEnds_readPieces wire gateway.device.unitId gateway.device.timeout address
        (ReadRequest.pieces address count) gateway.logged.line with ⟨news, grown, ends⟩
      have same : news = (readPieces (wire.logged.send gateway.device.unitId)
          gateway.device.timeout address (ReadRequest.pieces address count)
          gateway.logged.line).2.log :=
        (List.nil_append news).symm.trans grown.symm
      exact .inr ⟨eq_false_of_ne_true running, linked, same ▸ ends⟩
    next unlinked =>
      exact .inl ⟨rfl, .inr ⟨eq_false_of_ne_true running, eq_false_of_ne_true unlinked, rfl⟩⟩

end ModbusGateway

/-! ## In 16-bit words -/

/-- The sum of two words, none if it does not fit a word. -/
def checkedSum (first second : UInt16) : Option UInt16 :=
  if first.toNat + second.toNat < addressBound then some (first + second) else none

/-- The number of registers of the next request, when `offset` registers have been read. -/
def nextCount (count offset : UInt16) : UInt16 :=
  min (count - offset) 125

theorem toNat_min_word (first second : UInt16) :
    (min first second).toNat = min first.toNat second.toNat := by
  change (if first ≤ second then first else second).toNat = _
  split
  next less => exact (Nat.min_eq_left (UInt16.le_iff_toNat_le.mp less)).symm
  next greater =>
    rw [UInt16.le_iff_toNat_le] at greater
    exact (Nat.min_eq_right (Nat.le_of_not_le greater)).symm

/-- No operation on the number of registers that have been read wraps. -/
structure OffsetFits (count offset : UInt16) : Prop where
  /-- Not more has been read than there is to read. -/
  sub_eq : (count - offset).toNat = count.toNat - offset.toNat
  next_eq : (nextCount count offset).toNat = min maxRead (count.toNat - offset.toNat)
  add_eq : (offset + nextCount count offset).toNat = offset.toNat + (nextCount count offset).toNat
  add_le : (offset + nextCount count offset).toNat ≤ count.toNat

theorem offsetFits {count offset : UInt16} (more : offset < count) : OffsetFits count offset := by
  have before : offset.toNat < count.toNat := UInt16.lt_iff_toNat_lt.mp more
  have bound := count.toNat_lt
  have sub_eq : (count - offset).toNat = count.toNat - offset.toNat :=
    UInt16.toNat_sub_of_le _ _ (UInt16.le_iff_toNat_le.mpr before.le)
  have next_eq : (nextCount count offset).toNat = min maxRead (count.toNat - offset.toNat) := by
    rw [nextCount, toNat_min_word, sub_eq, Nat.min_comm]
    rfl
  have add_eq : (offset + nextCount count offset).toNat =
      offset.toNat + (nextCount count offset).toNat := by
    rw [UInt16.toNat_add]
    omega
  exact ⟨sub_eq, next_eq, add_eq, by omega⟩

theorem checkedSum_eq_some_iff {first second sum : UInt16} :
    checkedSum first second = some sum ↔ first.toNat + second.toNat = sum.toNat := by
  unfold checkedSum
  split
  next fits =>
    have added : (first + second).toNat = first.toNat + second.toNat := by
      rw [UInt16.toNat_add]
      exact Nat.mod_eq_of_lt fits
    rw [Option.some.injEq, ← UInt16.toNat_inj, added]
  next beyond =>
    apply iff_of_false nofun
    intro same
    exact beyond (same ▸ sum.toNat_lt)

theorem checkedSum_eq_none_iff {first second : UInt16} :
    checkedSum first second = none ↔ addressBound ≤ first.toNat + second.toNat := by
  rw [checkedSum, ← Nat.not_lt]
  split <;> simp_all

/-- Read `count` registers from `address` on when `offset` of them have been read: the loop
of `readPieces` in words. -/
def readWords (send : ReadRequest → δ → ReadReply × δ) (timeout : Duration)
    (address count offset : UInt16) (line : δ) : GatewayResult (List UInt16) × δ :=
  if offset < count then
    match checkedSum address offset with
    | none => (.error (beyondRegisters address.toNat offset.toNat), line)
    | some start =>
        let request : ReadRequest := ⟨start.toNat, (nextCount count offset).toNat⟩
        let (reply, line) := send request line
        match request.accept timeout reply with
        | .error error => (.error error, line)
        | .ok values =>
            let (rest, line) :=
              readWords send timeout address count (offset + nextCount count offset) line
            (rest.map (values ++ ·), line)
  else (.ok [], line)
termination_by count.toNat - offset.toNat
decreasing_by
  rename_i more
  have fits := offsetFits more
  have before := UInt16.lt_iff_toNat_lt.mp more
  rw [fits.add_eq, fits.next_eq]
  simp only [maxRead]
  omega

/-- The next piece of a run, in words. -/
theorem pieces_of_offset {count offset : UInt16} (more : offset < count) (address : UInt16) :
    ReadRequest.pieces (address.toNat + offset.toNat) (count.toNat - offset.toNat) =
      ⟨address.toNat + offset.toNat, (nextCount count offset).toNat⟩ ::
        ReadRequest.pieces (address.toNat + (offset + nextCount count offset).toNat)
          (count.toNat - (offset + nextCount count offset).toNat) := by
  have fits := offsetFits more
  have before := UInt16.lt_iff_toNat_lt.mp more
  rw [ReadRequest.pieces_of_pos (Nat.sub_pos_of_lt before), fits.add_eq, ← fits.next_eq,
    Nat.add_assoc, Nat.sub_add_eq]

/-- The loop in words sends what the pieces of the run ask for, and comes to the same. -/
theorem readWords_eq (send : ReadRequest → δ → ReadReply × δ) (timeout : Duration)
    (address count offset : UInt16) (line : δ) :
    readWords send timeout address count offset line =
      readPieces send timeout address.toNat
        (ReadRequest.pieces (address.toNat + offset.toNat) (count.toNat - offset.toNat)) line := by
  fun_induction readWords send timeout address count offset line with
  | case1 offset line more outside =>
      have beyond := checkedSum_eq_none_iff.mp outside
      rw [pieces_of_offset more, readPieces, if_neg (Nat.not_lt.mpr beyond),
        Nat.add_sub_cancel_left]
  | case2 offset line more start sum request reply after sent error refused =>
      have start_eq := checkedSum_eq_some_iff.mp sum
      have inside : start.toNat < addressBound := start.toNat_lt
      rw [pieces_of_offset more, start_eq, readPieces, if_pos inside]
      simp only [request] at sent refused
      simp only [sent, refused]
  | case3 offset line more start sum request reply after sent values accepted rest last read ih =>
      have start_eq := checkedSum_eq_some_iff.mp sum
      have inside : start.toNat < addressBound := start.toNat_lt
      rw [pieces_of_offset more, start_eq, readPieces, if_pos inside]
      simp only [request] at sent accepted
      simp only [sent, accepted, ← ih, read]
  | case4 offset line done =>
      have behind := Nat.le_of_not_lt fun before => done (UInt16.lt_iff_toNat_lt.mpr before)
      rw [Nat.sub_eq_zero_of_le behind, ReadRequest.pieces_zero, readPieces_nil]

namespace ModbusGateway

/-- Read registers over the open link, with the loop in words. -/
def readInWords (wire : Wire δ) (address count : UInt16) (gateway : ModbusGateway δ) :
    GatewayResult (List UInt16) × ModbusGateway δ :=
  if gateway.supervisor.shuttingDown then (.error .shuttingDown, gateway)
  else if gateway.supervisor.linked then
    let (result, line) :=
      readWords (wire.send gateway.device.unitId) gateway.device.timeout address count 0
        gateway.line
    (result, { gateway with line := line })
  else (.error (.transient .notConnected), gateway)

theorem readInWords_eq (wire : Wire δ) (address count : UInt16) (gateway : ModbusGateway δ) :
    gateway.readInWords wire address count = gateway.read wire address.toNat count.toNat := by
  simp only [readInWords, read, readWords_eq, UInt16.toNat_zero, Nat.add_zero, Nat.sub_zero]

/-! ## Every run -/

/-- A reading has ended with its last answer, which is not whole; all the others are. -/
def EndsAtAnswer (timeout : Duration) (exchanges : List Exchange) (error : GatewayError) : Prop :=
  ∃ before last, exchanges = before ++ [last] ∧ (∀ exchange ∈ before, exchange.Whole) ∧
    ¬ last.Whole ∧ last.request.accept timeout last.reply = .error error

/-- A reading has ended where the next request would begin behind the last register; all answers
are whole. -/
structure EndsBeyond (address count : Nat) (exchanges : List Exchange) (error : GatewayError) :
    Prop where
  whole : ∀ exchange ∈ exchanges, exchange.Whole
  offset : ∃ offset, offset < count ∧ addressBound ≤ address + offset ∧
    ReadRequest.Tile address (exchanges.map Exchange.request) (address + offset) ∧
      error = beyondRegisters address offset

/-- What is true of reading `count` registers from `address` on. -/
structure ReadsInOrder (wire : Wire δ) (address count : Nat) (gateway : ModbusGateway δ) :
    Prop where
  /-- The exchanges are those of the reading itself. -/
  shown_eq : gateway.read wire address count =
    shown (gateway.logged.read wire.logged address count)
  /-- The pieces tile the run. -/
  tile : ReadRequest.Tile address (ReadRequest.pieces address count) (address + count)
  /-- They are sent in order, from the first one on. -/
  sent : (gateway.readExchanges wire address count).map Exchange.request <+:
    ReadRequest.pieces address count
  /-- With success all of them have been sent and answered in full, and the registers are what
  has come back, in order: those of the memory, if this is what the answers show. -/
  done : ∀ registers, (gateway.read wire address count).1 = .ok registers →
    (gateway.readExchanges wire address count).map Exchange.request =
        ReadRequest.pieces address count ∧
      (∀ exchange ∈ gateway.readExchanges wire address count, exchange.Whole) ∧
      registers.length = count ∧
      registers = (gateway.readExchanges wire address count).flatMap Exchange.values ∧
      ∀ memory : Nat → UInt16,
        (∀ exchange ∈ gateway.readExchanges wire address count, exchange.Shows memory) →
          registers = (List.range count).map fun index => memory (address + index)
  /-- A failure is that of the link, without a request, that of the first answer that is not
  whole, without another request, or that of a request that cannot be made. -/
  failed : ∀ error, (gateway.read wire address count).1 = .error error →
    (gateway.readExchanges wire address count = [] ∧
        ((gateway.supervisor.shuttingDown = true ∧ error = .shuttingDown) ∨
          (gateway.supervisor.shuttingDown = false ∧ gateway.supervisor.linked = false ∧
            error = .transient .notConnected))) ∨
      EndsAtAnswer gateway.device.timeout (gateway.readExchanges wire address count) error ∨
      EndsBeyond address count (gateway.readExchanges wire address count) error

theorem sent_of_readingEnds {timeout : Duration} {start : Nat} {requests : List ReadRequest}
    {exchanges : List Exchange} {result : GatewayResult (List UInt16)}
    (ends : ReadingEnds timeout start requests exchanges result) :
    exchanges.map Exchange.request <+: requests := by
  cases ends with
  | whole reads =>
      exact reads.requests_eq ▸ List.prefix_refl _
  | @refused taken later request registers exchanges reply error same reads refused =>
      rw [List.map_append, reads.requests_eq, same]
      exact ⟨later, by simp⟩
  | beyond same reads outside =>
      rw [reads.requests_eq, same]
      exact List.prefix_append _ _

theorem endsBeyond_of_readingEnds {address count : Nat} {taken later : List ReadRequest}
    {request : ReadRequest} {registers : List UInt16} {exchanges : List Exchange}
    (pieces_eq : ReadRequest.pieces address count = taken ++ request :: later)
    (reads : Reads taken registers exchanges) (outside : addressBound ≤ request.address) :
    EndsBeyond address count exchanges (beyondRegisters address (request.address - address)) := by
  have tile := ReadRequest.tile_pieces address count
  rw [pieces_eq] at tile
  rcases tile.split with ⟨middle, before, after⟩
  rcases ReadRequest.tile_cons_iff.mp after with ⟨rfl, positive, -, -⟩
  have start := before.sum_count
  have stop := after.end_le List.mem_cons_self
  have offset_eq : address + (request.address - address) = request.address := by omega
  refine ⟨reads.whole, request.address - address, by omega, by omega, ?_, rfl⟩
  rwa [offset_eq, reads.requests_eq]

/-- However a reading ends, it is in order. -/
theorem readsInOrder (wire : Wire δ) (address count : Nat) (gateway : ModbusGateway δ) :
    gateway.ReadsInOrder wire address count := by
  have tile := ReadRequest.tile_pieces address count
  refine ⟨read_forget wire gateway.logged address count, tile, ?_, ?_, ?_⟩
  · rcases read_cases wire address count gateway with ⟨nothing, -⟩ | ⟨-, -, ends⟩
    · rw [nothing]
      exact List.nil_prefix
    · exact sent_of_readingEnds ends
  · intro registers done
    rcases read_cases wire address count gateway with ⟨-, refused⟩ | ⟨-, -, ends⟩
    · rcases refused with ⟨-, failed⟩ | ⟨-, -, failed⟩ <;> cases failed.symm.trans done
    · rw [done] at ends
      generalize gateway.readExchanges wire address count = exchanges at ends ⊢
      rcases ends with ⟨reads⟩
      have registers_eq := reads.registers_eq
      refine ⟨reads.requests_eq, reads.whole, length_of_read done, registers_eq, ?_⟩
      intro memory shows
      rw [← reads.requests_eq] at tile
      rw [registers_eq, tile.flatMap_values shows, Nat.add_sub_cancel_left]
  · intro error failed
    rcases read_cases wire address count gateway with ⟨nothing, refused⟩ | ⟨-, -, ends⟩
    · refine .inl ⟨nothing, ?_⟩
      rcases refused with ⟨ended, same⟩ | ⟨running, unlinked, same⟩
      · exact .inl ⟨ended, Except.error.inj (failed.symm.trans same)⟩
      · exact .inr ⟨running, unlinked, Except.error.inj (failed.symm.trans same)⟩
    · rw [failed] at ends
      generalize gateway.readExchanges wire address count = exchanges at ends ⊢
      rcases ends with _ | ⟨same, reads, refused⟩ | ⟨same, reads, outside⟩
      · exact .inr (.inl ⟨_, _, rfl, reads.whole, Exchange.not_whole_of_accept refused, refused⟩)
      · exact .inr (.inr (endsBeyond_of_readingEnds same reads outside))

/-- No register behind the last one is asked for. -/
structure ReadsInside (header : ModelHeader) (wire : Wire δ) (gateway : ModbusGateway δ) :
    Prop where
  requests : ∀ request ∈ ReadRequest.pieces header.address.toNat header.length.toNat,
    request.address + request.count ≤ addressBound
  reachable : ∀ error, (gateway.readModel wire header).1 = .error error →
    ∀ what, error.cause ≠ .outOfRange what

theorem cause_ne_outOfRange_of_accept {request : ReadRequest} {timeout : Duration}
    {reply : ReadReply} {error : GatewayError}
    (refused : request.accept timeout reply = .error error) (what : String) :
    error.cause ≠ .outOfRange what := by
  intro outside
  cases reply with
  | registers values =>
      simp only [ReadRequest.accept] at refused
      split at refused
      · cases refused
      · cases refused
        contradiction
  | exception code =>
      cases refused
      contradiction
  | failure message =>
      cases refused
      contradiction
  | silence =>
      cases refused
      contradiction

/-- The registers of a model of an accepted device are read without leaving the register
space. -/
theorem readsInside_of_accepted {map : ModelMap} (accepted : map.Accepted) {header : ModelHeader}
    (mem : header ∈ map.models) (wire : Wire δ) (gateway : ModbusGateway δ) :
    gateway.ReadsInside header wire := by
  have inside := accepted.registers_inside mem
  have tile := ReadRequest.tile_pieces header.address.toNat header.length.toNat
  constructor
  · intro request asked
    exact (tile.end_le asked).trans inside
  · intro error failed
    rcases (gateway.readsInOrder wire _ _).failed error failed with
      ⟨-, ⟨-, rfl⟩ | ⟨-, -, rfl⟩⟩ | ⟨before, last, -, -, -, refused⟩ | ⟨-, offset, fewer, beyond, -⟩
    · nofun
    · nofun
    · exact cause_ne_outOfRange_of_accept refused
    · omega

/-- For every address, every count and every device: a reading is in order, its loop comes to
the same in 16-bit words, none of whose operations wraps, and the registers of the models of
every device that a check has accepted are read, over whatever link, without a request that goes
past the last register. -/
theorem registers_read_in_order (wire : Wire δ) (gateway : ModbusGateway δ)
    (address count : UInt16) :
    gateway.ReadsInOrder wire address.toNat count.toNat ∧
      gateway.readInWords wire address count = gateway.read wire address.toNat count.toNat ∧
      (∀ offset : UInt16, offset < count → OffsetFits count offset ∧
        ∀ start, checkedSum address offset = some start ↔
          address.toNat + offset.toNat = start.toNat) ∧
      ((gateway.validate wire).1 = .ok () →
        ∃ map, (gateway.validate wire).2.models = some map ∧
          ∀ header ∈ map.models, ∀ (link : Wire δ) (reader : ModbusGateway δ),
            reader.ReadsInside header link) := by
  refine ⟨gateway.readsInOrder wire _ _, gateway.readInWords_eq wire address count, ?_, ?_⟩
  · intro offset more
    exact ⟨offsetFits more, fun start => checkedSum_eq_some_iff⟩
  · intro done
    rcases validate_cases wire gateway with
      ⟨error, failed, -⟩ | ⟨-, kept, map, -, accepted, after⟩
    · cases failed.symm.trans done
    · refine ⟨map, by rw [after], fun header mem link reader => ?_⟩
      exact readsInside_of_accepted accepted mem link reader

end ModbusGateway

end InverterBridge
