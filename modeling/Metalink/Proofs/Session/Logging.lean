import Mathlib.Data.List.DropRight
import Mathlib.Tactic.Common
import Metalink.Session

/-!
# Logging along a session

The mark that logging has been configured and the list of sinks are kept apart, and every call
that concerns logging moves the one or the other.  What ties them together is the history of the
calls: while logging is marked as configured there is exactly one sink, and it is the one that
the last explicit configuration since the last reset asked for, or the default one if a logger
was used before anybody configured anything.

An action is taken apart into what it does to the process, one thing after another: sinks are
removed, a sink is added, the mark is set.  Not even between these are there two sinks.

Main results:

- `run_eq_undergo`: a run of actions is what they do, one thing after another.
- `sinks_length_le_one_of_prefix`: at no point of a run are there two sinks.
- `followsHistory_run`: what the state of logging has to do with the actions so far.
- `performAll_eq`: calls of a session act on logging as the actions that they come to.
- `logging_follows_calls`: mark, sink and written lines follow the calls of a session.
-/

namespace Metalink

open Metalink.Schema

namespace Logging

/-! ## What actions do, one thing after another -/

/-- One thing that is done to the sinks or to the mark: all sinks are removed, one is added to
those that there are, or logging is marked as configured or as not configured. -/
inductive Effect where
  | removeSinks
  | addSink (sink : Sink)
  | mark (configured : Bool)

/-- Logging after one thing is done to it. -/
def Effect.on (logging : Logging) : Effect → Logging
  | removeSinks => { logging with sinks := [] }
  | addSink sink => { logging with sinks := logging.sinks ++ [sink] }
  | mark configured => { logging with configured := configured }

/-- Logging after several things are done to it. -/
def undergo (logging : Logging) (effects : List Effect) : Logging :=
  effects.foldl Effect.on logging

/-- To configure logging with a sink, the others are removed first. -/
def configuring (sink : Sink) : List Effect :=
  [.removeSinks, .addSink sink, .mark true]

/-- The sink that there is where nobody asks for another one. -/
def defaultSink : Sink := ⟨.info, .ofEnvironment .production⟩

/-- The sink that an action explicitly asks for. -/
def Action.sink? : Action → Option Sink
  | .configure level environment => some ⟨level, .ofEnvironment environment⟩
  | .setUp settings | .start settings =>
    some ⟨settings.logLevel, .ofEnvironment settings.environment⟩
  | .use _ | .reset => none

/-- What an action does.  Using a logger does nothing if logging has been configured. -/
def Action.effects (logging : Logging) : Action → List Effect
  | .configure level environment => configuring ⟨level, .ofEnvironment environment⟩
  | .setUp settings | .start settings =>
    configuring ⟨settings.logLevel, .ofEnvironment settings.environment⟩
  | .use _ => if logging.configured then [] else configuring defaultSink
  | .reset => [.removeSinks, .mark false]

/-- What several actions do, one after another. -/
def effectsOf (logging : Logging) : List Action → List Effect
  | [] => []
  | action :: rest => action.effects logging ++ effectsOf (logging.act action) rest

section Effects

variable (logging : Logging) {points : List Effect}

theorem undergo_append (first second : List Effect) :
    logging.undergo (first ++ second) = (logging.undergo first).undergo second :=
  List.foldl_append

/-- An action is all that its effects do. -/
theorem act_eq_undergo (action : Action) :
    logging.act action = logging.undergo (action.effects logging) := by
  cases action with
  | configure | setUp | start | reset => rfl
  | use logger =>
    simp only [act, Action.effects]
    split <;> rfl

/-- A run of actions is what they do, one thing after another. -/
theorem run_eq_undergo (actions : List Action) :
    logging.run actions = logging.undergo (effectsOf logging actions) := by
  induction actions generalizing logging with
  | nil => rfl
  | cons action rest ih =>
    rw [effectsOf, undergo_append, ← act_eq_undergo, ← ih]
    rfl

/-- Up to any point of an action there is at most one sink: no sink is added before the others
are removed. -/
theorem sinks_length_le_one_of_prefix_effects {action : Action}
    (hone : logging.sinks.length ≤ 1) (h : points <+: action.effects logging) :
    (logging.undergo points).sinks.length ≤ 1 := by
  have hconfiguring : ∀ sink, points <+: configuring sink →
      (logging.undergo points).sinks.length ≤ 1 := by
    intro sink hprefix
    simp only [configuring, List.prefix_cons_iff, List.prefix_nil] at hprefix
    rcases hprefix with rfl | ⟨_, rfl, rfl | ⟨_, rfl, rfl | ⟨_, rfl, rfl⟩⟩⟩ <;>
      simp [undergo, Effect.on, hone]
  cases action with
  | configure | setUp | start => exact hconfiguring _ h
  | use logger =>
    simp only [Action.effects] at h
    split at h
    · rw [List.prefix_nil.1 h]
      exact hone
    · exact hconfiguring _ h
  | reset =>
    simp only [Action.effects, List.prefix_cons_iff, List.prefix_nil] at h
    rcases h with rfl | ⟨_, rfl, rfl | ⟨_, rfl, rfl⟩⟩ <;> simp [undergo, Effect.on, hone]

/-- At no point of a run are there two sinks, not even in the course of an action. -/
theorem sinks_length_le_one_of_prefix {actions : List Action} (hone : logging.sinks.length ≤ 1)
    (h : points <+: effectsOf logging actions) : (logging.undergo points).sinks.length ≤ 1 := by
  induction actions generalizing logging points with
  | nil =>
    rw [List.prefix_nil.1 h]
    exact hone
  | cons action rest ih =>
    rw [effectsOf] at h
    rcases List.prefix_or_prefix_of_prefix h (List.prefix_append _ _) with hpoints | hpoints
    · exact logging.sinks_length_le_one_of_prefix_effects hone hpoints
    · -- The point lies beyond this action, which leaves at most one sink behind.
      obtain ⟨later, rfl⟩ := hpoints
      rw [List.prefix_append_right_inj] at h
      have hact : (logging.act action).sinks.length ≤ 1 := by
        rw [act_eq_undergo]
        exact logging.sinks_length_le_one_of_prefix_effects hone List.prefix_rfl
      rw [undergo_append, ← act_eq_undergo]
      exact ih _ hact h

end Effects

/-! ## The history of actions -/

/-- Whether an action forgets the configuration. -/
def Action.isReset : Action → Bool
  | .reset => true
  | _ => false

/-- The actions after the last reset. -/
def sinceReset (actions : List Action) : List Action :=
  actions.rtakeWhile fun action => !action.isReset

/-- The sink that the last explicit configuration since the last reset asked for, or the default
one if there was none. -/
def lastSink (actions : List Action) : Sink :=
  ((sinceReset actions).filterMap Action.sink?).getLast?.getD defaultSink

/-- The last of the actions is there, and is no reset. -/
def EndsConfigured (actions : List Action) : Prop :=
  ∃ last, actions.getLast? = some last ∧ last.isReset = false

/-- What the state of logging has to do with the actions so far.  Logging is marked as configured
exactly if something was done and no reset came last; the only sink is then the one that was
asked for last, and after a reset there is none. -/
structure FollowsHistory (logging : Logging) (actions : List Action) : Prop where
  configured_iff : logging.configured = true ↔ EndsConfigured actions
  sinks_eq : logging.configured = true → logging.sinks = [lastSink actions]
  silent : actions.getLast? = some .reset → logging.sinks = []

section History

variable {logging : Logging} {actions : List Action} {action : Action}

theorem endsConfigured_concat : EndsConfigured (actions ++ [action]) ↔ action.isReset = false := by
  simp [EndsConfigured]

theorem sinceReset_concat (h : action.isReset = false) :
    sinceReset (actions ++ [action]) = sinceReset actions ++ [action] :=
  List.rtakeWhile_concat_pos _ _ _ (by simp [h])

theorem isReset_of_sink? {sink : Sink} (h : action.sink? = some sink) :
    action.isReset = false := by
  cases action with
  | configure | setUp | start => rfl
  | use | reset => cases h

theorem lastSink_concat_of_some {sink : Sink} (h : action.sink? = some sink) :
    lastSink (actions ++ [action]) = sink := by
  simp [lastSink, sinceReset_concat (isReset_of_sink? h), h]

theorem lastSink_concat_use (logger : String) :
    lastSink (actions ++ [.use logger]) = lastSink actions := by
  simp [lastSink, sinceReset_concat (show (Action.use logger).isReset = false from rfl),
    Action.sink?]

/-- Where nothing has been configured since the last reset, the default sink is the last one. -/
theorem lastSink_of_not_endsConfigured (h : ¬ EndsConfigured actions) :
    lastSink actions = defaultSink := by
  induction actions using List.reverseRecOn with
  | nil => rfl
  | append_singleton before last _ =>
    have hreset : last.isReset = true := by
      rwa [endsConfigured_concat, Bool.not_eq_false] at h
    have hnone : sinceReset (before ++ [last]) = [] :=
      List.rtakeWhile_concat_neg _ _ _ (by simp [hreset])
    rw [lastSink, hnone]
    rfl

/-- An explicit configuration replaces whatever there was. -/
theorem act_of_sink? {sink : Sink} (h : action.sink? = some sink) :
    logging.act action = ⟨[sink], true⟩ := by
  cases action with
  | configure | setUp | start =>
    obtain rfl := Option.some.inj h
    rfl
  | use | reset => cases h

/-- An action that asks for a sink leaves nothing else. -/
theorem followsHistory_of_sink? {sink : Sink} (h : action.sink? = some sink) :
    FollowsHistory (logging.act action) (actions ++ [action]) where
  configured_iff := by
    rw [act_of_sink? h, endsConfigured_concat]
    exact iff_of_true rfl (isReset_of_sink? h)
  sinks_eq _ := by rw [act_of_sink? h, lastSink_concat_of_some h]
  silent hlast := by
    rw [List.getLast?_concat] at hlast
    obtain rfl := Option.some.inj hlast
    cases h

/-- Asking for a logger adds the default sink where there is none. -/
theorem followsHistory_use (h : FollowsHistory logging actions) (logger : String) :
    FollowsHistory (logging.act (.use logger)) (actions ++ [.use logger]) where
  configured_iff := by
    rw [endsConfigured_concat]
    refine iff_of_true ?_ rfl
    cases hmark : logging.configured <;> simp [act, hmark, standard, through]
  sinks_eq _ := by
    rw [lastSink_concat_use]
    by_cases hmark : logging.configured = true
    · have hsame : logging.act (.use logger) = logging := if_pos hmark
      rw [hsame]
      exact h.sinks_eq hmark
    · have hdefault : lastSink actions = defaultSink :=
        lastSink_of_not_endsConfigured fun hends => hmark (h.configured_iff.2 hends)
      have hstandard : logging.act (.use logger) = standard := if_neg hmark
      rw [hstandard, hdefault]
      rfl
  silent hlast := by
    rw [List.getLast?_concat] at hlast
    cases hlast

/-- A reset leaves nothing. -/
theorem followsHistory_reset : FollowsHistory (logging.act .reset) (actions ++ [.reset]) where
  configured_iff := by
    rw [endsConfigured_concat]
    exact iff_of_false Bool.false_ne_true Bool.noConfusion
  sinks_eq hmark := by cases hmark
  silent _ := rfl

/-- Every action keeps the tie between the state of logging and the actions so far. -/
theorem followsHistory_act (h : FollowsHistory logging actions) (action : Action) :
    FollowsHistory (logging.act action) (actions ++ [action]) := by
  cases action with
  | configure | setUp | start => exact followsHistory_of_sink? rfl
  | use logger => exact followsHistory_use h logger
  | reset => exact followsHistory_reset

/-- From a process that has just started, the state of logging follows the actions so far. -/
theorem followsHistory_run (actions : List Action) :
    FollowsHistory (fresh.run actions) actions := by
  induction actions using List.reverseRecOn with
  | nil =>
    refine ⟨by simp [run, fresh, EndsConfigured], ?_, ?_⟩
    · intro hmark
      cases hmark
    · intro hlast
      cases hlast
  | append_singleton before last ih =>
    rw [run, List.foldl_concat]
    exact followsHistory_act ih last

end History

/-- Through a single sink a record is written once, if it is severe enough. -/
theorem write_of_sinks_eq {logging : Logging} {sink : Sink} (h : logging.sinks = [sink])
    (moment : Moment) (logger : String) (record : LogRecord) :
    logging.write moment logger record =
      if sink.level.rank ≤ record.level.rank then [sink.format.line moment logger record]
      else [] := by
  by_cases hlevel : sink.level.rank ≤ record.level.rank <;>
    simp [write, h, Sink.takes, hlevel]

end Logging

/-! ## Calls in a session -/

namespace Session

/-- A call that concerns logging: it is configured, as settings say or otherwise, the application
is started with given settings or else with those of the variables, a logger is asked for, or all
sinks are removed and the configuration is forgotten. -/
inductive Call where
  | configure (level : LogLevel) (environment : Environment)
  | setUp (settings : Settings)
  | start (given : Option Settings)
  | use (logger : String)
  | reset

/-- The session after a call.  A start with settings that are refused leaves it as it was. -/
def perform (session : Session) : Call → Session
  | .configure level environment => session.act (.configure level environment)
  | .setUp settings => session.act (.setUp settings)
  | .start given =>
    match session.start given with
    | .ok (_, after) => after
    | .error _ => session
  | .use logger => session.act (.use logger)
  | .reset => session.act .reset

/-- What a call does to logging.  A start with settings that are refused is given up before it
does anything. -/
def Call.action? (vars : Variables) : Call → Option Logging.Action
  | .configure level environment => some (.configure level environment)
  | .setUp settings => some (.setUp settings)
  | .start (some settings) => some (.start settings)
  | .start none => (Settings.resolve [] vars).toOption.map .start
  | .use logger => some (.use logger)
  | .reset => some .reset

/-- The session after several calls. -/
def performAll (session : Session) (calls : List Call) : Session :=
  calls.foldl perform session

/-- A call does what its action does, if it comes to one. -/
theorem perform_eq (session : Session) (call : Call) :
    session.perform call =
      { session with logging := session.logging.run (call.action? session.vars).toList } := by
  cases call with
  | configure | setUp | use | reset => rfl
  | start given =>
    cases given with
    | some settings => rfl
    | none =>
      simp only [perform, start, Call.action?]
      cases Settings.resolve [] session.vars <;> rfl

/-- Calls act on logging as the actions that they come to, and on nothing else. -/
theorem performAll_eq (session : Session) (calls : List Call) :
    session.performAll calls =
      { session with
        logging := session.logging.run (calls.filterMap (Call.action? session.vars)) } := by
  induction calls generalizing session with
  | nil => rfl
  | cons call rest ih =>
    have hrest := ih (session.perform call)
    rw [perform_eq] at hrest
    rw [performAll, List.foldl_cons, perform_eq]
    refine hrest.trans ?_
    cases haction : call.action? session.vars with
    | none => rw [List.filterMap_cons_none haction]; rfl
    | some action => rw [List.filterMap_cons_some haction]; rfl

/-- What the logging of a session has to do with the actions since the process started.  What has
happened to the sinks and to the mark is what the actions do, and at no point of this were there
two sinks.  Logging is configured exactly if something was done and no reset came last.  There is
then one sink, that of the last explicit configuration since the last reset, or else the default
one; asking for a logger changes nothing; and a record is written once, in the format of this
sink, if it is severe enough, and not at all otherwise.  Right after a reset nothing is
written. -/
structure LoggingFollows (session : Session) (actions : List Logging.Action) : Prop where
  undergone : session.logging = Logging.fresh.undergo (Logging.effectsOf .fresh actions)
  atMostOneSink : ∀ points, points <+: Logging.effectsOf .fresh actions →
    (Logging.fresh.undergo points).sinks.length ≤ 1
  configured_iff : session.logging.configured = true ↔ Logging.EndsConfigured actions
  sinks_eq : session.logging.configured = true →
    session.logging.sinks = [Logging.lastSink actions]
  use_eq : session.logging.configured = true →
    ∀ logger, session.perform (.use logger) = session
  write_eq : session.logging.configured = true → ∀ logger record,
    session.write logger [record] =
      if (Logging.lastSink actions).level.rank ≤ record.level.rank then
        [(Logging.lastSink actions).format.line session.moment logger record]
      else []
  silent : actions.getLast? = some .reset → ∀ logger log, session.write logger log = []

/-- Whatever calls are made from the start of a process, in any order, its logging follows those
that were not given up: the mark tells whether something was done since the last reset, the only
sink is that of the last explicit configuration, and using a logger never replaces it. -/
theorem logging_follows_calls (vars : Variables) (moment : Moment) (calls : List Call) :
    LoggingFollows (performAll ⟨vars, moment, .fresh⟩ calls)
      (calls.filterMap (Call.action? vars)) := by
  rw [performAll_eq]
  have hfollows := Logging.followsHistory_run (calls.filterMap (Call.action? vars))
  refine ⟨Logging.run_eq_undergo _ _, ?_, hfollows.configured_iff, hfollows.sinks_eq, ?_, ?_, ?_⟩
  · intro points hpoints
    exact Logging.fresh.sinks_length_le_one_of_prefix (by decide) hpoints
  · intro hmark logger
    simp only [perform, act, Logging.act]
    rw [if_pos hmark]
  · intro hmark logger record
    rw [write, Logging.writeAll, List.flatMap_singleton,
      Logging.write_of_sinks_eq (hfollows.sinks_eq hmark)]
  · intro hlast logger log
    simp [write, Logging.writeAll, Logging.write, hfollows.silent hlast]

end Session

end Metalink
