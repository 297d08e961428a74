import Mathlib.Data.List.Nodup
import SchemaScript.Chat.Client
import SchemaScript.Proofs.Chat.Attempts

/-! The requests of a chat. They form blocks, one for each service that is tried, and what a service is
sent and what its turn comes to is the same as if it were the only one asked. A service has its turn
only after those before it have failed, the first request that succeeds is the last one sent, and what
it gives is the reply. -/

namespace SchemaScript

/-- What a service takes for a success of its own. -/
def Answer.given? (a : Answer) : Option String := (a.content "").toOption

/-- The label shows in failures only. -/
theorem Answer.toOption_content (a : Answer) (label : String) :
    (a.content label).toOption = a.given? := by
  cases a with
  | error e => rfl
  | completion content => cases content <;> rfl
  | candidate text parts =>
    have hlabel (s : String) :
        (if s = "" then .error (.noContent label) else .ok s : Except Failure String).toOption =
          (if s = "" then .error (.noContent "") else .ok s : Except Failure String).toOption := by
      split <;> rfl
    exact hlabel _

def Event.request? : Event → Option Request
  | .request r => some r
  | _ => none

/-- The requests among events, in order. -/
def requestsOf (es : List Event) : List Request := es.filterMap Event.request?

theorem requestsOf_append (es es' : List Event) :
    requestsOf (es ++ es') = requestsOf es ++ requestsOf es' :=
  List.filterMap_append

namespace Client

variable {services : Services} {s : Settings} {c c' : Client} {ms : List Message} {p q : Provider}

/-- The turn of a service in a chat: the requests it is sent, and what its turn comes to. -/
structure Turn where
  provider : Provider
  requests : List Request
  result : Except Failure String

namespace Turn

/-- What the answers to the requests of a turn give. A service goes on from the requests it has had. -/
def given (services : Services) (c : Client) (t : Turn) : List (Option String) :=
  (List.range t.requests.length).map fun i =>
    (services.answer t.provider (c.asked t.provider + i)).given?

/-- Only its own service is asked in a turn, no more often than the settings allow, and not again once
it has given something. -/
structure Fair (services : Services) (s : Settings) (c : Client) (t : Turn) : Prop where
  own : ∀ r ∈ t.requests, r.provider = t.provider
  limited : (t.requests.length : Int) ≤ max 1 s.maxRetries
  concludes : Concludes (t.given services c) t.result

theorem Fair.of_asked {t : Turn} (h : t.Fair services s c')
    (hasked : c'.asked t.provider = c.asked t.provider) : t.Fair services s c := by
  have hgiven : t.given services c' = t.given services c := by simp only [given, hasked]
  exact ⟨h.own, h.limited, hgiven ▸ h.concludes⟩

end Turn

/-- The turn of a service that is asked alone. -/
def turn (services : Services) (s : Settings) (c : Client) (ms : List Message) (p : Provider) : Turn :=
  { provider := p
    requests := requestsOf (c.ask services s p ms).events
    result := (c.ask services s p ms).reply }

theorem requestsOf_connect (s : Settings) (c : Client) (p : Provider) (k : Connection) :
    requestsOf (connect s c p k).1 = [] := by
  unfold connect
  split <;> rfl

theorem asked_connect (s : Settings) (c : Client) (p : Provider) (k : Connection) :
    (connect s c p k).2.asked = c.asked := by
  unfold connect
  split <;> rfl

/-- The steps of a run send the same request for every attempt. -/
theorem requestsOf_stepEvents (r : Request) (outcome : Nat → Except Failure String)
    (steps : List RetryStep) : requestsOf (steps.flatMap (stepEvents r outcome)) =
      (steps.filterMap RetryStep.attempt?).map fun _ => r := by
  induction steps with
  | nil => rfl
  | cons step steps ih =>
    rw [List.flatMap_cons, requestsOf_append, ih]
    cases step with
    | attempt i =>
      have hown : requestsOf (stepEvents r outcome (.attempt i)) = [r] := by
        simp only [stepEvents]
        cases outcome i <;> rfl
      rw [hown]
      rfl
    | wait d => rfl
    | report e => rfl

theorem fair_send (services : Services) (s : Settings) (c : Client) (p : Provider) (label : String)
    (question : Question) :
    Turn.Fair services s c ⟨p, requestsOf (send services s c p label question).events,
      (send services s c p label question).reply⟩ := by
  obtain ⟨n, hn, hrun⟩ := (policy s p label).orderly_run fun i =>
    (services.answer p (c.asked p + i)).content label
  have hrequests : requestsOf (send services s c p label question).events =
      (List.range' 0 n).map fun _ => ⟨p, s.modelOf p, question, s.temperature⟩ := by
    rw [← hrun.attempted]
    exact requestsOf_stepEvents _ _ _
  have hlength : (requestsOf (send services s c p label question).events).length = n := by
    rw [hrequests, List.length_map, List.length_range']
  refine ⟨fun r hr => ?_, ?_, ?_⟩
  · rw [hrequests] at hr
    obtain ⟨-, -, rfl⟩ := List.mem_map.mp hr
    rfl
  · have hattempts : (policy s p label).attempts = max 1 s.maxRetries.toNat := rfl
    show ((requestsOf (send services s c p label question).events).length : Int) ≤ _
    omega
  · have hgiven : Turn.given services c ⟨p, requestsOf (send services s c p label question).events,
        (send services s c p label question).reply⟩ = (List.range' 0 n).map fun i =>
          ((services.answer p (c.asked p + i)).content label).toOption := by
      simp only [Turn.given, hlength, List.range_eq_range', Answer.toOption_content]
    rw [hgiven]
    exact hrun.concludes

theorem fair_of_no_requests (services : Services) (s : Settings) (c : Client) (p : Provider)
    (f : Failure) : Turn.Fair services s c ⟨p, [], .error f⟩ := by
  refine ⟨by simp, ?_, concludes_nil f⟩
  show ((0 : Nat) : Int) ≤ _
  omega

theorem fair_turn (services : Services) (s : Settings) (c : Client) (ms : List Message)
    (p : Provider) : (c.turn services s ms p).Fair services s c := by
  unfold turn ask
  cases connection services s c p with
  | error f => exact fair_of_no_requests services s c p f
  | ok k =>
    dsimp only
    cases question s p ms with
    | error f =>
      dsimp only
      rw [requestsOf_connect]
      exact fair_of_no_requests services s c p f
    | ok question =>
      dsimp only
      rw [requestsOf_append, requestsOf_connect, List.nil_append]
      exact (fair_send services s _ p k.label question).of_asked
        (congrFun (asked_connect s c p k) p)

/-! Services do not get into each other's way. -/

/-- Two clients that a service cannot tell apart: it has had as many requests from both, and is
connected to both or to neither. -/
structure SameFor (p : Provider) (c c' : Client) : Prop where
  asked : c'.asked p = c.asked p
  connected : c'.connected.contains p = c.connected.contains p

theorem SameFor.trans {c'' : Client} (h : SameFor p c c') (h' : SameFor p c' c'') : SameFor p c c'' :=
  ⟨h'.asked.trans h.asked, h'.connected.trans h.connected⟩

theorem turn_congr (h : SameFor p c c') : c'.turn services s ms p = c.turn services s ms p := by
  have hconnection : connection services s c' p = connection services s c p := by
    cases p with
    | openai => rfl
    | localServer => rfl
    | gemini => simp only [connection, h.connected]
  have hevents (k : Connection) : (connect s c' p k).1 = (connect s c p k).1 := by
    simp only [connect, h.connected]
    split <;> rfl
  have hsend (k : Connection) (question : Question) :
      (send services s (connect s c' p k).2 p k.label question).events =
        (send services s (connect s c p k).2 p k.label question).events ∧
      (send services s (connect s c' p k).2 p k.label question).reply =
        (send services s (connect s c p k).2 p k.label question).reply := by
    simp only [send, asked_connect, h.asked, and_self]
  unfold turn ask
  rw [hconnection]
  cases connection services s c p with
  | error f => rfl
  | ok k =>
    dsimp only
    cases question s p ms with
    | error f => simp only [hevents]
    | ok question => simp only [hevents, (hsend k question).1, (hsend k question).2]

theorem sameFor_connect (h : q ≠ p) (k : Connection) : SameFor q c (connect s c p k).2 := by
  refine ⟨congrFun (asked_connect s c p k) q, ?_⟩
  unfold connect
  split
  · rfl
  · simp [h]

theorem sameFor_ask (h : q ≠ p) : SameFor q c (c.ask services s p ms).client := by
  unfold ask
  cases connection services s c p with
  | error f => exact ⟨rfl, rfl⟩
  | ok k =>
    dsimp only
    cases question s p ms with
    | error f => exact sameFor_connect h k
    | ok question =>
      refine (sameFor_connect h k).trans ⟨?_, rfl⟩
      exact if_neg h

/-! A chat -/

/-- A chat that may ask the services `ps` has tried these of them: they are the first ones, all of them
if the chat has failed; all but the last of them have failed, and the last gives the reply. -/
structure Takes (turn : Provider → Turn) (ps tried : List Provider) (spoken : Spoken) : Prop where
  first : tried <+: ps
  requests : requestsOf spoken.events = tried.flatMap fun p => (turn p).requests
  failed : ∀ p ∈ tried.dropLast, ∃ f, (turn p).result = .error f
  reply : spoken.reply = (tried.getLast?.map fun p => (turn p).result).getD (.error .noProvider)
  all : ∀ f, spoken.reply = .error f → tried = ps

theorem takes_singleton {turn : Provider → Turn} {spoken : Spoken}
    (hrequests : requestsOf spoken.events = (turn p).requests)
    (hreply : spoken.reply = (turn p).result) : Takes turn [p] [p] spoken where
  first := List.prefix_rfl
  requests := by rw [hrequests, List.flatMap_singleton]
  failed := by simp
  reply := hreply
  all _ _ := rfl

theorem Takes.eq_nil_iff {turn : Provider → Turn} {ps tried : List Provider} {spoken : Spoken}
    (h : Takes turn ps tried spoken) : tried = [] ↔ ps = [] := by
  constructor
  · rintro rfl
    exact (h.all .noProvider h.reply).symm
  · rintro rfl
    exact List.prefix_nil.mp h.first

/-- Services are asked in turn by a client that none of them can tell from the one at the start. -/
theorem takes_askInTurn {ps : List Provider} (hps : ps.Nodup) (h : ∀ p ∈ ps, SameFor p c c') :
    ∃ tried, Takes (c.turn services s ms) ps tried (c'.askInTurn services s ms ps) := by
  induction ps generalizing c' with
  | nil => exact ⟨[], List.prefix_rfl, rfl, by simp, rfl, fun _ _ => rfl⟩
  | cons p ps ih =>
    have hturn : c'.turn services s ms p = c.turn services s ms p := turn_congr (h p (by simp))
    have hrequests : requestsOf (c'.ask services s p ms).events = (c.turn services s ms p).requests :=
      congrArg Turn.requests hturn
    have hreply : (c'.ask services s p ms).reply = (c.turn services s ms p).result :=
      congrArg Turn.result hturn
    cases ps with
    | nil => exact ⟨[p], takes_singleton hrequests hreply⟩
    | cons q ps =>
      cases hfirst : (c'.ask services s p ms).reply with
      | ok content =>
        have hspoken : c'.askInTurn services s ms (p :: q :: ps) = c'.ask services s p ms := by
          simp only [askInTurn, hfirst]
        rw [hspoken]
        refine ⟨[p], ⟨q :: ps, rfl⟩, ?_, by simp, hreply, fun f hf => ?_⟩
        · rw [hrequests, List.flatMap_singleton]
        · rw [hfirst] at hf
          cases hf
      | error f =>
        obtain ⟨hp, hnodup⟩ := List.nodup_cons.mp hps
        have hlater : ∀ r ∈ q :: ps, SameFor r c (c'.ask services s p ms).client := fun r hr =>
          (h r (List.mem_cons_of_mem p hr)).trans (sameFor_ask fun heq => hp (heq ▸ hr))
        obtain ⟨tried, htried⟩ := ih hnodup hlater
        have hne : tried ≠ [] := mt htried.eq_nil_iff.mp (by simp)
        have hspoken : c'.askInTurn services s ms (p :: q :: ps) =
            { (c'.ask services s p ms).client.askInTurn services s ms (q :: ps) with
              events := (c'.ask services s p ms).events ++ .report (fallbackEntry p f) ::
                ((c'.ask services s p ms).client.askInTurn services s ms (q :: ps)).events } := by
          simp only [askInTurn, hfirst]
        rw [hspoken]
        refine ⟨p :: tried, List.prefix_cons_inj p |>.mpr htried.first, ?_, ?_, ?_, ?_⟩
        · rw [List.flatMap_cons, ← hrequests, ← htried.requests, requestsOf_append]
          rfl
        · rw [List.dropLast_cons_of_ne_nil hne, List.forall_mem_cons]
          exact ⟨⟨f, hreply ▸ hfirst⟩, htried.failed⟩
        · rw [List.getLast?_cons_of_ne_nil hne]
          exact htried.reply
        · intro f' hf'
          rw [htried.all f' hf']

theorem concludes_tried {tried : List Provider}
    (hfailed : ∀ p ∈ tried.dropLast, ∃ f, (c.turn services s ms p).result = .error f) :
    Concludes (tried.flatMap fun p => (c.turn services s ms p).given services c)
      ((tried.getLast?.map fun p => (c.turn services s ms p).result).getD (.error .noProvider)) := by
  induction tried with
  | nil => exact concludes_nil .noProvider
  | cons p tried ih =>
    have hturn := (fair_turn services s c ms p).concludes
    cases tried with
    | nil => simpa using hturn
    | cons q tried =>
      rw [List.dropLast_cons_of_ne_nil (by simp), List.forall_mem_cons] at hfailed
      obtain ⟨⟨f, hf⟩, hrest⟩ := hfailed
      rw [hf] at hturn
      exact hturn.append (ih hrest)

/-- The services a chat may ask: the one the client is pinned to, or all that are configured. -/
def candidates (s : Settings) (c : Client) : List Provider :=
  match c.pinned with
  | some p => [p]
  | none => s.providers

/-- The requests of a chat are those of the services it has tried, one service after the other: services
that may be asked, from the first on, and no further than the first that replies. Each is sent as many
requests as the settings allow at most. The first request of all that succeeds is the last one sent,
and what it gives is the reply; if every service fails, the failure of the last one is. A client that is
pinned to a service asks only that one. -/
theorem chat_takesTurns (services : Services) (s : Settings) (c : Client) (ms : List Message) :
    ∃ tried, Takes (c.turn services s ms) (c.candidates s) tried (c.chat services s ms) ∧
      (∀ p ∈ tried, (c.turn services s ms p).Fair services s c) ∧
      Concludes (tried.flatMap fun p => (c.turn services s ms p).given services c)
        (c.chat services s ms).reply ∧
      (∀ p, c.pinned = some p → tried = [p]) ∧
      (c.candidates s = [] → (c.chat services s ms).reply = .error .noProvider ∧
        requestsOf (c.chat services s ms).events = []) := by
  obtain ⟨tried, htried⟩ :
      ∃ tried, Takes (c.turn services s ms) (c.candidates s) tried (c.chat services s ms) := by
    unfold candidates chat
    cases c.pinned with
    | some p => exact ⟨[p], takes_singleton rfl rfl⟩
    | none =>
      have hnodup : s.providers.Nodup := List.Nodup.filter _ (by decide)
      exact takes_askInTurn hnodup fun _ _ => ⟨rfl, rfl⟩
  have hconcludes := concludes_tried htried.failed
  rw [← htried.reply] at hconcludes
  refine ⟨tried, htried, fun p _ => fair_turn services s c ms p, hconcludes, fun p hp => ?_,
    fun hnone => ?_⟩
  · have hcandidates : c.candidates s = [p] := by rw [candidates, hp]
    rw [hcandidates] at htried
    cases tried with
    | nil => exact absurd (htried.eq_nil_iff.mp rfl) (by simp)
    | cons q rest =>
      obtain ⟨rfl, hrest⟩ := List.cons_prefix_cons.mp htried.first
      rw [List.prefix_nil.mp hrest]
  · obtain rfl := htried.eq_nil_iff.mpr hnone
    exact ⟨htried.reply, htried.requests⟩

end Client

end SchemaScript
