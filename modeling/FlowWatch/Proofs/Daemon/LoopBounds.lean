import FlowWatch.Daemon.Program
import FlowWatch.Proofs.Pipeline.Steps

/-!
# The bounds of the loop

A turn ends the loop because shutdown was requested, because its step failed or
because enough units were produced, or it lets the loop go on. Put in sequence, the
turns take steps at the first ticks of a list and at no others: a request keeps the
loop from the step of its tick and from all that follow, and a failed step is the
last one. Up to the last step fewer units were produced than asked for, and one step
produces one unit at most, so the limit is met exactly. The stall is logged by the
first turn that sees it.
-/

namespace FlowWatch

open Log

/-! ### What the steps of a pipeline log -/

/-- Probes are all that logs when data passes them. -/
theorem Monitor.component_of_mem_notifyAll {m : Monitor} {now : Duration} {probes : List Probe}
    {event : Event} (h : event ∈ (m.notifyAll now probes).2) : event.component = .probe := by
  induction probes generalizing m with
  | nil => cases h
  | cons probe rest ih =>
    rcases List.mem_append.1 h with hfirst | hrest
    · split at hfirst
      · rw [List.mem_singleton.1 hfirst]
        rfl
      · cases hfirst
    · exact ih hrest

/-- The converter is all that logs when it takes a unit. -/
theorem Normalizer.component_of_mem_step {n : Normalizer} {a : Arrival} {event : Event}
    (h : event ∈ (n.step a).events) : event.component = .normalizer := by
  rcases List.mem_append.1 h with hlatch | htaken
  · unfold latchEvents at hlatch
    split at hlatch
    · rw [List.mem_singleton.1 hlatch]
      rfl
    · cases hlatch
  · split at htaken
    · rcases List.mem_append.1 htaken with hmoved | hout
      · split at hmoved
        · rw [List.mem_singleton.1 hmoved]
          rfl
        · cases hmoved
      · rw [List.mem_singleton.1 hout]
        rfl
    · unfold discard at htaken
      dsimp only at htaken
      split at htaken
      · simp only [List.mem_cons, List.not_mem_nil, or_false] at htaken
        rcases htaken with rfl | rfl <;> rfl
      · rw [List.mem_singleton.1 htaken]
        rfl

namespace Pipeline

/-- Probes are all that logs when a unit passes pads. -/
theorem component_of_mem_pushAll {m : Monitor} {reading : Duration}
    {pads : List (String × String)} {event : Event}
    (h : event ∈ (pushAll m reading pads).2) : event.component = .probe := by
  induction pads generalizing m with
  | nil => cases h
  | cons pad rest ih =>
    rcases List.mem_append.1 h with hfirst | hrest
    · unfold Monitor.push at hfirst
      split at hfirst
      · exact Monitor.component_of_mem_notifyAll hfirst
      · cases hfirst
    · exact ih hrest

/-- A step logs nothing in the name of the daemon. -/
theorem component_of_mem_step {p : Pipeline} {moment : Moment} {event : Event}
    (h : event ∈ (p.step moment).events) : event.component ≠ .daemon := by
  have hprobe : event.component = .probe → event.component ≠ .daemon :=
    fun heq => by rw [heq]; decide
  have hearly : event ∈ (pushAll p.monitor moment.reading sourcePads).2 ++
      (p.normalizer.step (p.arrival moment)).events → event.component ≠ .daemon := by
    intro hmem
    rcases List.mem_append.1 hmem with hpads | hunit
    · exact hprobe (component_of_mem_pushAll hpads)
    · rw [Normalizer.component_of_mem_step hunit]
      decide
  simp only [step] at h
  split at h
  · cases h
  · split at h
    · rcases List.mem_append.1 h with hbefore | hafter
      · exact hearly hbefore
      · exact hprobe (component_of_mem_pushAll hafter)
    · exact hearly h
    · exact hearly h

/-- Every step produces one unit at most. -/
theorem emitted_run_le (p : Pipeline) (moments : List Moment) :
    (p.run moments).1.emitted ≤ p.emitted + moments.length := by
  induction moments generalizing p with
  | nil => exact Nat.le_refl _
  | cons moment rest ih =>
    have hrest := ih (p.step moment).next
    have hstep : (p.step moment).next.emitted ≤ p.emitted + 1 := by
      cases hstalled : p.isStalled moment.elapsed with
      | true =>
        rw [step_of_isStalled hstalled]
        exact Nat.le_succ _
      | false => exact Nat.le_of_eq (step_emitted hstalled)
    rw [List.length_cons]
    exact Nat.le_trans hrest (by omega)

end Pipeline

namespace Daemon

/-- The moments of ticks. -/
def moments (ticks : List Tick) : List Pipeline.Moment := ticks.map Tick.moment

namespace Loop

/-! ### One turn -/

/-- No shutdown is requested when the turn of a tick begins. -/
def Open (l : Loop) (tick : Tick) : Prop :=
  l.shutdown.requested = false ∧ tick.signal = none

/-- The loop after the step of a turn. -/
def stepped (l : Loop) (tick : Tick) : Loop :=
  l.afterStep (l.pipeline.step tick.moment).next (l.pipeline.step tick.moment).outcome

/-- The step of a turn does not fail. -/
def Sound (l : Loop) (tick : Tick) : Prop :=
  ∀ fault, (l.pipeline.step tick.moment).outcome ≠ .failed fault

/-- All that a turn can do, with what decides it. -/
inductive Turns (l : Loop) (limit : Nat) (tick : Tick) : Option Ending → Loop → Prop
  /-- Shutdown is requested, and there is no step. -/
  | shutdown (hrequested : ¬l.Open tick) :
      l.Turns limit tick (some .shutdown) (l.receive tick.signal)
  /-- The step fails. -/
  | failed (hopen : l.Open tick) {fault : Timestamp.Fault}
      (hfailed : (l.pipeline.step tick.moment).outcome = .failed fault) :
      l.Turns limit tick (some (.failed fault)) (l.stepped tick)
  /-- Enough units were produced. -/
  | limit (hopen : l.Open tick) (hsound : l.Sound tick)
      (hfull : (l.stepped tick).isFull limit = true) :
      l.Turns limit tick (some .limit) (l.stepped tick)
  /-- The loop goes on. -/
  | onward (hopen : l.Open tick) (hsound : l.Sound tick)
      (hfull : (l.stepped tick).isFull limit = false) :
      l.Turns limit tick none (l.stepped tick)

/-- A request shows at the head of a turn, whether it came before or with the tick. -/
theorem requested_receive (l : Loop) (tick : Tick) :
    (l.receive tick.signal).shutdown.requested = true ↔ ¬l.Open tick := by
  unfold receive Open
  cases tick.signal with
  | none => simp
  | some signal => simp [Shutdown.State.receive]

/-- Every turn is one of these. -/
theorem turn_turns (l : Loop) (limit : Nat) (tick : Tick) :
    l.Turns limit tick (l.turn limit tick).ending (l.turn limit tick).loop := by
  by_cases hopen : l.Open tick
  · have hhead : l.receive tick.signal = l := by
      rw [hopen.2]
      rfl
    simp only [turn, hhead, hopen.1, Bool.false_eq_true, if_false]
    split
    · rename_i fault hfailed
      exact .failed hopen hfailed
    · rename_i outcome hsound
      cases hfull : (l.stepped tick).isFull limit with
      | true =>
        rw [stepped] at hfull
        rw [if_pos hfull]
        exact .limit hopen hsound hfull
      | false =>
        rw [stepped] at hfull
        rw [if_neg (Bool.eq_false_iff.1 hfull)]
        split <;> exact .onward hopen hsound hfull
  · simp only [turn, (l.requested_receive tick).2 hopen, if_true]
    exact .shutdown hopen

/-- How often the loop can still log the stall. -/
def owed (l : Loop) : Nat := if l.stallLogged then 0 else 1

/-- The stall is logged only by a loop that has not done so, and not again by the next
one. -/
theorem count_outcomeEvents (l : Loop) (p : Pipeline) (outcome : Pipeline.Outcome) :
    (l.outcomeEvents outcome).count .sourceStalled + (l.afterStep p outcome).owed ≤ l.owed := by
  cases hlogged : l.stallLogged <;> cases outcome <;>
    simp [outcomeEvents, afterStep, owed, hlogged]

/-- A turn that logs the stall has not logged it before, and will not do so again. A
step that fails logs nothing of its own. -/
theorem count_turn (l : Loop) (limit : Nat) (tick : Tick) :
    (l.turn limit tick).events.count .sourceStalled + (l.turn limit tick).loop.owed ≤ l.owed := by
  have harrived : (signalEvents tick.signal).count .sourceStalled = 0 := by
    cases tick.signal <;> simp [signalEvents]
  have howed : (l.receive tick.signal).owed = l.owed := by
    unfold receive
    split <;> rfl
  have hquiet : ∀ p : Pipeline, (p.step tick.moment).events.count .sourceStalled = 0 :=
    fun p => List.count_eq_zero.2 fun hmem => Pipeline.component_of_mem_step hmem rfl
  have hcount := (l.receive tick.signal).count_outcomeEvents
    ((l.receive tick.signal).pipeline.step tick.moment).next
    ((l.receive tick.signal).pipeline.step tick.moment).outcome
  rw [howed] at hcount
  simp only [turn]
  split
  · simp only [harrived, howed, Nat.zero_add, Nat.le_refl]
  · split
    · simp only [List.count_append, harrived, hquiet, Nat.zero_add]
      omega
    · split <;> try split
      all_goals
        simp only [List.count_append, harrived, hquiet, Nat.zero_add]
        simpa using hcount

/-! ### Turns in sequence -/

/-- How a loop goes on at a list of ticks: those at which it takes a step, those that it
leaves, how it ends if it does, and the loop at that point. -/
inductive Goes (limit : Nat) : Loop → List Tick → List Tick → Option Ending → Loop → Prop
  /-- There is no tick. -/
  | pending (l : Loop) : Goes limit l [] [] none l
  /-- Shutdown is requested at a tick. -/
  | shutdown {l : Loop} {tick : Tick} (rest : List Tick) (hrequested : ¬l.Open tick) :
      Goes limit l [] (tick :: rest) (some .shutdown) (l.receive tick.signal)
  /-- The step at a tick fails. -/
  | failed {l : Loop} {tick : Tick} (rest : List Tick) (hopen : l.Open tick)
      {fault : Timestamp.Fault}
      (hfailed : (l.pipeline.step tick.moment).outcome = .failed fault) :
      Goes limit l [tick] rest (some (.failed fault)) (l.stepped tick)
  /-- The step at a tick produces the last unit. -/
  | limit {l : Loop} {tick : Tick} (rest : List Tick) (hopen : l.Open tick)
      (hsound : l.Sound tick) (hfull : (l.stepped tick).isFull limit = true) :
      Goes limit l [tick] rest (some .limit) (l.stepped tick)
  /-- The loop goes on after a tick. -/
  | onward {l last : Loop} {tick : Tick} {taken rest : List Tick} {ending : Option Ending}
      (hopen : l.Open tick) (hsound : l.Sound tick)
      (hfull : (l.stepped tick).isFull limit = false)
      (hgoes : Goes limit (l.stepped tick) taken rest ending last) :
      Goes limit l (tick :: taken) rest ending last

/-- Every run goes on in this way. -/
theorem run_goes (l : Loop) (limit : Nat) (ticks : List Tick) :
    ∃ taken rest, ticks = taken ++ rest ∧
      Goes limit l taken rest (l.run limit ticks).ending (l.run limit ticks).loop := by
  induction ticks generalizing l with
  | nil => exact ⟨[], [], rfl, .pending l⟩
  | cons tick ticks ih =>
    have hturn := l.turn_turns limit tick
    simp only [run]
    generalize hending : (l.turn limit tick).ending = ending at hturn
    generalize hnext : (l.turn limit tick).loop = next at hturn
    cases hturn with
    | shutdown hrequested =>
      rw [hending, hnext]
      exact ⟨[], _, rfl, .shutdown ticks hrequested⟩
    | failed hopen hfailed =>
      rw [hending, hnext]
      exact ⟨[tick], ticks, rfl, .failed ticks hopen hfailed⟩
    | limit hopen hsound hfull =>
      rw [hending, hnext]
      exact ⟨[tick], ticks, rfl, .limit ticks hopen hsound hfull⟩
    | onward hopen hsound hfull =>
      obtain ⟨taken, rest, rfl, hgoes⟩ := ih (l.stepped tick)
      exact ⟨tick :: taken, rest, rfl, .onward hopen hsound hfull hgoes⟩

/-- The stall is logged once in a run. -/
theorem count_run (l : Loop) (limit : Nat) (ticks : List Tick) :
    (l.run limit ticks).events.count .sourceStalled + (l.run limit ticks).loop.owed ≤ l.owed := by
  induction ticks generalizing l with
  | nil => exact Nat.le_of_eq (Nat.zero_add _)
  | cons tick ticks ih =>
    have hfirst := l.count_turn limit tick
    simp only [run]
    split
    · exact hfirst
    · have hrest := ih (l.turn limit tick).loop
      simp only [List.count_append]
      omega

section Goes

variable {limit : Nat} {l last : Loop} {taken rest : List Tick} {ending : Option Ending}

/-- The pipeline takes the steps of the ticks that are taken. -/
theorem Goes.pipeline_eq (h : Goes limit l taken rest ending last) :
    last.pipeline = (l.pipeline.run (moments taken)).1 := by
  induction h with
  | pending => rfl
  | shutdown =>
    unfold receive
    split <;> rfl
  | failed => rfl
  | limit => rfl
  | onward _ _ _ _ ih => exact ih

/-- One signal is counted at most, since the loop ends with it. -/
theorem Goes.signals_le (h : Goes limit l taken rest ending last) :
    last.shutdown.signals ≤ l.shutdown.signals + 1 := by
  induction h with
  | pending => exact Nat.le_succ _
  | shutdown =>
    unfold receive
    split
    · exact Nat.le_refl _
    · exact Nat.le_succ _
  | failed => exact Nat.le_succ _
  | limit => exact Nat.le_succ _
  | onward _ _ _ _ ih => exact ih

/-- No tick is taken at which shutdown is requested, or after such a one. -/
theorem Goes.open (h : Goes limit l taken rest ending last) :
    ∀ tick ∈ taken, l.Open tick := by
  induction h with
  | pending => simp
  | shutdown => simp
  | failed _ hopen _ => simpa using hopen
  | limit _ hopen _ _ => simpa using hopen
  | onward hopen _ _ _ ih =>
    intro tick hmem
    rcases List.mem_cons.1 hmem with rfl | hmem
    · exact hopen
    · exact ih tick hmem

/-- A step that fails is the last one, and the loop ends with its failure. -/
theorem Goes.outcomes (h : Goes limit l taken rest ending last) (fault : Timestamp.Fault) :
    (ending = some (.failed fault) ↔
        (l.pipeline.run (moments taken)).2.getLast? = some (.failed fault)) ∧
      .failed fault ∉ (l.pipeline.run (moments taken)).2.dropLast := by
  induction h with
  | pending => simp [moments, Pipeline.run]
  | shutdown => simp [moments, Pipeline.run]
  | failed _ _ hfailed => simp [moments, Pipeline.run, hfailed]
  | limit _ _ hsound _ => simp [moments, Pipeline.run, hsound fault]
  | @onward l last tick taken rest ending hopen hsound hfull hgoes ih =>
    have hrun : (l.pipeline.run (moments (tick :: taken))).2 =
        (l.pipeline.step tick.moment).outcome ::
          ((l.stepped tick).pipeline.run (moments taken)).2 := rfl
    rw [hrun, ih.1]
    have hlater := ih.2
    cases houtcomes : ((l.stepped tick).pipeline.run (moments taken)).2 with
    | nil => simp [hsound fault]
    | cons outcome outcomes =>
      rw [houtcomes] at hlater
      rw [List.getLast?_cons_cons, List.dropLast_cons_cons]
      refine ⟨Iff.rfl, fun hmem => ?_⟩
      rcases List.mem_cons.1 hmem with heq | hmem
      · exact hsound fault heq.symm
      · exact hlater hmem

/-- One step cannot lead beyond a limit that is not reached. -/
theorem emitted_run_le_of_length {p : Pipeline} {earlier : List Tick}
    (hbelow : p.emitted < limit) (hlength : earlier.length ≤ 1) :
    (p.run (moments earlier)).1.emitted ≤ limit := by
  have hrun := p.emitted_run_le (moments earlier)
  rw [moments, List.length_map] at hrun
  exact Nat.le_trans hrun (by omega)

/-- A loop that starts below the limit never exceeds it. Where the loop goes on after
its first step, that step did not reach the limit. -/
theorem Goes.emitted_le (h : Goes limit l taken rest ending last)
    (hstart : l.pipeline.emitted < limit) {earlier : List Tick} (hearlier : earlier <+: taken) :
    (l.pipeline.run (moments earlier)).1.emitted ≤ limit := by
  induction h generalizing earlier with
  | pending => exact emitted_run_le_of_length hstart (Nat.le_succ_of_le hearlier.length_le)
  | shutdown => exact emitted_run_le_of_length hstart (Nat.le_succ_of_le hearlier.length_le)
  | failed => exact emitted_run_le_of_length hstart hearlier.length_le
  | limit => exact emitted_run_le_of_length hstart hearlier.length_le
  | @onward l last tick taken rest ending hopen hsound hfull hgoes ih =>
    rcases List.prefix_cons_iff.1 hearlier with rfl | ⟨later, rfl, hlater⟩
    · exact Nat.le_of_lt hstart
    · refine ih ?_ hlater
      simp only [isFull, Bool.and_eq_false_iff, decide_eq_false_iff_not] at hfull
      omega

/-- A loop that ends with the limit has reached it. -/
theorem Goes.of_limit (h : Goes limit l taken rest (some .limit) last) :
    0 < limit ∧ limit ≤ last.pipeline.emitted := by
  generalize hending : some Ending.limit = ending at h
  induction h with
  | pending => cases hending
  | shutdown => cases hending
  | failed => cases hending
  | limit _ _ _ hfull => simpa [isFull] using hfull
  | onward _ _ _ _ ih => exact ih hending

/-- A loop that ends with a request leaves the tick of the request. -/
theorem Goes.of_shutdown (h : Goes limit l taken rest (some .shutdown) last) :
    ∃ tick after, rest = tick :: after ∧ ¬l.Open tick := by
  generalize hending : some Ending.shutdown = ending at h
  induction h with
  | pending => cases hending
  | shutdown after hrequested => exact ⟨_, after, rfl, hrequested⟩
  | failed => cases hending
  | limit => cases hending
  | onward _ _ _ _ ih => exact ih hending

/-- A loop that does not end leaves no tick. -/
theorem Goes.of_none (h : Goes limit l taken rest none last) : rest = [] := by
  generalize hending : none = ending at h
  induction h with
  | pending => rfl
  | shutdown => cases hending
  | failed => cases hending
  | limit => cases hending
  | onward _ _ _ _ ih => exact ih hending

end Goes

/-- A run counts one signal at most, which a word of 32 bits holds. -/
theorem signals_run_le (l : Loop) (limit : Nat) (ticks : List Tick) :
    (l.run limit ticks).loop.shutdown.signals ≤ l.shutdown.signals + 1 := by
  obtain ⟨taken, rest, -, hgoes⟩ := l.run_goes limit ticks
  exact hgoes.signals_le

end Loop

/-! ### Runs of the loop -/

/-- Shutdown is requested in a state, or by a signal before one of the turns. -/
def Requested (shutdown : Shutdown.State) (ticks : List Tick) : Prop :=
  shutdown.requested = true ∨ ∃ tick ∈ ticks, tick.signal.isSome = true

/-- A tick whose turn does not begin has a request before it or with it. -/
theorem requested_of_not_open {l : Loop} {tick : Tick} (h : ¬l.Open tick) (before : List Tick) :
    Requested l.shutdown (before ++ [tick]) := by
  by_cases hrequested : l.shutdown.requested = true
  · exact .inl hrequested
  · refine .inr ⟨tick, List.mem_append_right before List.mem_cons_self, ?_⟩
    rw [Option.isSome_iff_ne_none]
    exact fun hnone => h ⟨Bool.eq_false_iff.2 hrequested, hnone⟩

/-- Where shutdown is requested at a tick or before it, the steps end before the tick. -/
theorem Loop.Goes.prefix_of_requested {limit : Nat} {l last : Loop}
    {taken rest before after : List Tick} {tick : Tick} {ending : Option Ending}
    (h : Goes limit l taken rest ending last) (hsplit : taken ++ rest = before ++ tick :: after)
    (hrequested : Requested l.shutdown (before ++ [tick])) : taken <+: before := by
  have hbeyond : ¬before ++ [tick] <+: taken := by
    intro htaken
    rcases hrequested with hstart | ⟨signalled, hmem, hsignal⟩
    · have hfirst := (h.open tick (htaken.subset (by simp))).1
      rw [hstart] at hfirst
      cases hfirst
    · have hquiet := (h.open signalled (htaken.subset hmem)).2
      rw [hquiet] at hsignal
      cases hsignal
  have hsplit' : taken ++ rest = before ++ [tick] ++ after := by simpa using hsplit
  rcases List.prefix_or_prefix_of_prefix (List.prefix_append taken rest)
    (hsplit' ▸ List.prefix_append (before ++ [tick]) after) with hearly | hlate
  · rcases List.prefix_concat_iff.1 hearly with rfl | hearlier
    · exact absurd List.prefix_rfl hbeyond
    · exact hearlier
  · exact absurd hlate hbeyond

/-- The loop gives back a failure just when it ended with it. -/
theorem Turn.result?_eq_error {t : Turn} {fault : Timestamp.Fault} :
    t.result? = some (.error fault) ↔ t.ending = some (.failed fault) := by
  obtain ⟨last, ending, events⟩ := t
  rcases ending with - | (- | - | other) <;> simp [result?, Loop.result]

/-- The loop gives back counts just when it ended without a failure. -/
theorem Turn.result?_eq_ok {t : Turn} {counts : Counts} :
    t.result? = some (.ok counts) ↔
      (t.ending = some .shutdown ∨ t.ending = some .limit) ∧ counts = t.loop.pipeline.counts := by
  obtain ⟨last, ending, events⟩ := t
  rcases ending with - | (- | - | fault) <;> simp [result?, Loop.result, eq_comm]

/-- The loop gives back nothing as long as it has not ended. -/
theorem Turn.result?_eq_none {t : Turn} : t.result? = none ↔ t.ending = none :=
  Option.map_eq_none_iff

/-- The loop keeps its bounds, whatever pipeline it starts with, whether and when shutdown
is requested and whatever the clocks say. It takes the steps of the first ticks, and no
others:
* none once shutdown is requested, be it before the loop or by a signal before a turn;
* none after a step that failed, and that failure is what it gives back;
* none that leads beyond a limit above its start.
If it gives back counts, they are those of its pipeline, and either shutdown was requested
before the next step or the limit was reached, and not exceeded from a start below it. It
goes on until then, and logs the stall once at most. -/
theorem loop_within_bounds (p : Pipeline) (shutdown : Shutdown.State) (limit : Nat)
    (ticks : List Tick) :
    let whole := (Loop.mk p shutdown false).run limit ticks
    let steps := fun ticks => p.run (moments ticks)
    ∃ taken rest, ticks = taken ++ rest ∧ whole.loop.pipeline = (steps taken).1 ∧
      (∀ before tick after, ticks = before ++ tick :: after →
        Requested shutdown (before ++ [tick]) → taken <+: before) ∧
      (∀ fault,
        (whole.result? = some (.error fault) ↔
          (steps taken).2.getLast? = some (.failed fault)) ∧
        .failed fault ∉ (steps taken).2.dropLast) ∧
      (p.emitted < limit → ∀ earlier, earlier <+: taken → (steps earlier).1.emitted ≤ limit) ∧
      (∀ counts, whole.result? = some (.ok counts) →
        counts = (steps taken).1.counts ∧
        ((∃ tick after, rest = tick :: after ∧ Requested shutdown (taken ++ [tick])) ∨
          0 < limit ∧ limit ≤ counts.emitted ∧ (p.emitted < limit → counts.emitted = limit))) ∧
      (whole.result? = none → rest = []) ∧
      whole.events.count .sourceStalled ≤ 1 := by
  intro whole steps
  obtain ⟨taken, rest, hticks, hgoes⟩ := (Loop.mk p shutdown false).run_goes limit ticks
  have hpipeline : whole.loop.pipeline = (steps taken).1 := hgoes.pipeline_eq
  have hbelow (hstart : p.emitted < limit) (earlier : List Tick) (hearlier : earlier <+: taken) :
      (steps earlier).1.emitted ≤ limit := hgoes.emitted_le hstart hearlier
  refine ⟨taken, rest, hticks, hpipeline, fun before tick after hsplit =>
    hgoes.prefix_of_requested (hticks.symm.trans hsplit), fun fault => ?_, hbelow,
    fun counts hcounts => ?_, fun hnone => ?_, ?_⟩
  · rw [Turn.result?_eq_error]
    exact hgoes.outcomes fault
  · obtain ⟨hending, rfl⟩ := Turn.result?_eq_ok.1 hcounts
    refine ⟨congrArg Pipeline.counts hpipeline, ?_⟩
    rcases hending with hshutdown | hlimit
    · rw [hshutdown] at hgoes
      obtain ⟨tick, after, rfl, hrequested⟩ := hgoes.of_shutdown
      exact .inl ⟨tick, after, rfl, requested_of_not_open hrequested taken⟩
    · rw [hlimit] at hgoes
      obtain ⟨hsome, hreached⟩ := hgoes.of_limit
      refine .inr ⟨hsome, hreached, fun hstart => Nat.le_antisymm ?_ hreached⟩
      exact hpipeline ▸ hbelow hstart taken List.prefix_rfl
  · rw [Turn.result?_eq_none.1 hnone] at hgoes
    exact hgoes.of_none
  · exact Nat.le_trans (Nat.le_add_right _ _) ((Loop.mk p shutdown false).count_run limit ticks)

/-- The turns that a program takes, each at a tick that the texts so far may have had a
part in, are a run of the loop over those ticks. -/
theorem exists_run_of_turns {s : Surroundings} {filter : Filter} {limit bound number : Nat}
    {l last : Loop} {ending : Ending} {shown shown' : List String}
    (h : turns s filter limit bound number l shown = some (last, ending, shown')) :
    ∃ ticks events, l.run limit ticks = ⟨last, some ending, events⟩ ∧
      shown' = shown ++ filter.texts events := by
  induction bound generalizing number l shown with
  | zero => cases h
  | succ bound ih =>
    simp only [turns] at h
    generalize hturn : l.turn limit (s.tick number shown) = first at h
    obtain ⟨next, decided, events⟩ := first
    cases decided with
    | some decided =>
      simp only [Option.some.injEq, Prod.mk.injEq] at h
      obtain ⟨rfl, rfl, rfl⟩ := h
      exact ⟨[s.tick number shown], events, by simp only [Loop.run, hturn], rfl⟩
    | none =>
      obtain ⟨ticks, further, hrun, rfl⟩ := ih h
      refine ⟨s.tick number shown :: ticks, events ++ further, ?_, ?_⟩
      · simp only [Loop.run, hturn, hrun]
      · simp only [Filter.texts, List.filter_append, List.map_append, List.append_assoc]

end Daemon
end FlowWatch
