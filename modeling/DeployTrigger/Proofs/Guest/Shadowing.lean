import DeployTrigger.Proofs.Guest.Beside
import DeployTrigger.Proofs.Settling

/-!
Work next to the same work with silenced calls. The one settles if the other does, to the same
result, and the logs differ by the events of the silenced calls. Work that is a run shadows the run
beside it (`Shadows.of_runs`), and a sequence shadows a sequence (`Shadows.bind`).
-/
namespace DeployTrigger.Guest
open Deploy Machine

/-- The events of a call: those of the host, and those of some runs side by side. -/
inductive Booked (m m' : Module) (runs : Machine → Machine → Prop) : List Booking → Prop where
  | nil : Booked m m' runs []
  | host {event : Log.Event} {rest : List Booking} (h : event.source = .host)
      (hrest : Booked m m' runs rest) : Booked m m' runs (⟨event, false⟩ :: rest)
  | guest {c c' : Machine} {booked rest : List Booking} {o : Outcome} {after after' : Store}
      (hc : runs c c') (h : Beside m m' c c' booked o after after')
      (hrest : Booked m m' runs rest) : Booked m m' runs (booked ++ rest)

variable {m m' : Module} {runs : Machine → Machine → Prop}

theorem Booked.append {booked rest : List Booking} (h : Booked m m' runs booked)
    (hrest : Booked m m' runs rest) : Booked m m' runs (booked ++ rest) := by
  induction h with
  | nil => exact hrest
  | host h _ ih => exact .host h ih
  | guest hc h _ ih =>
    rw [List.append_assoc]
    exact .guest hc h ih

/-- Work that does some runs of a module, and the same work with silenced calls: they come to the
same result, and the second log is the first one without the events of silenced calls. -/
structure Observed {α : Type} (m m' : Module) (runs : Machine → Machine → Prop)
    (work work' : Nat → Deploy α) : Prop where
  /-- A larger bound on the steps changes nothing but work that gave up. -/
  stable : Stable work ∧ Stable work'
  result (r : Except DeployError α) :
    (∃ events, Settles work r events) ↔ ∃ events, Settles work' r events
  log {r r' : Except DeployError α} {events events' : List Log.Event} (h : Settles work r events)
    (h' : Settles work' r' events') :
    ∃ booked, Booked m m' runs booked ∧ events = booked.map Booking.event ∧ events' = heard booked

/-- Both end with related values or with one error. -/
inductive Likewise {α β : Type} (R : α → β → Prop) :
    Except DeployError α → Except DeployError β → Prop where
  | ok {a : α} {b : β} (h : R a b) : Likewise R (.ok a) (.ok b)
  | error (e : DeployError) : Likewise R (.error e) (.error e)

theorem Likewise.eq {α : Type} {r r' : Except DeployError α}
    (h : Likewise (fun a b => a = b) r r') : r = r' := by
  cases h with
  | ok h => rw [h]
  | error => rfl

theorem Likewise.refl {α : Type} (r : Except DeployError α) : Likewise (fun a b => a = b) r r := by
  cases r with
  | error e => exact .error e
  | ok a => exact .ok rfl

/-- Work settles whenever the work beside it does, and likewise. -/
structure Shadows {α β : Type} (m m' : Module) (runs : Machine → Machine → Prop)
    (R : α → β → Prop) (work : Nat → Deploy α) (work' : Nat → Deploy β) : Prop where
  settles {r : Except DeployError α} {events : List Log.Event} (h : Settles work r events) :
    ∃ r' booked, Likewise R r r' ∧ Booked m m' runs booked ∧
      events = booked.map Booking.event ∧ Settles work' r' (heard booked)
  ends {r' : Except DeployError β} {events' : List Log.Event} (h : Settles work' r' events') :
    ∃ r events, Settles work r events

namespace Shadows
variable {α β γ δ : Type} {R : α → β → Prop} {S : γ → δ → Prop} {work : Nat → Deploy α}
  {work' : Nat → Deploy β}

theorem settled (h : Shadows m m' runs R work work') {r' : Except DeployError β}
    {events' : List Log.Event} (h' : Settles work' r' events') :
    ∃ r booked, Likewise R r r' ∧ Booked m m' runs booked ∧ events' = heard booked ∧
      Settles work r (booked.map Booking.event) := by
  obtain ⟨r, events, hr⟩ := h.ends h'
  obtain ⟨r'', booked, hlike, hbooked, rfl, hr''⟩ := h.settles hr
  obtain ⟨rfl, rfl⟩ := h'.unique hr''
  exact ⟨r, booked, hlike, hbooked, rfl, hr⟩

theorem observed {work work' : Nat → Deploy α} (h : Shadows m m' runs (fun a b => a = b) work work')
    (hs : Stable work) (hs' : Stable work') : Observed m m' runs work work' where
  stable := ⟨hs, hs'⟩
  result r := by
    constructor
    · rintro ⟨events, hr⟩
      obtain ⟨r', booked, hlike, _, _, hr'⟩ := h.settles hr
      exact ⟨_, hlike.eq ▸ hr'⟩
    · rintro ⟨events', hr'⟩
      obtain ⟨r₀, booked, hlike, _, _, hr⟩ := h.settled hr'
      exact ⟨_, hlike.eq ▸ hr⟩
  log hr hr' := by
    obtain ⟨_, booked, _, hbooked, hevents, hr''⟩ := h.settles hr
    exact ⟨booked, hbooked, hevents, (hr'.unique hr'').2⟩

theorem bind {f : Nat → α → Deploy γ} {g : Nat → β → Deploy δ} (hw : Shadows m m' runs R work work')
    (hs : Stable work) (hs' : Stable work')
    (hf : ∀ a b, R a b → Shadows m m' runs S (fun n => f n a) (fun n => g n b)) :
    Shadows m m' runs S (fun n => work n >>= f n) (fun n => work' n >>= g n) where
  settles h := by
    obtain ⟨e, he, rfl⟩ | ⟨a, before, after, ha, hr, rfl⟩ := h.of_bind hs
    · obtain ⟨r', booked, hlike, hbooked, hevents, hr'⟩ := hw.settles he
      cases hlike
      exact ⟨_, booked, .error e, hbooked, hevents, hr'.bind_error g⟩
    · obtain ⟨r', booked, hlike, hbooked, rfl, hb⟩ := hw.settles ha
      cases hlike with
      | ok hab =>
        obtain ⟨r', rest, hlike, hrest, rfl, hr'⟩ := (hf _ _ hab).settles hr
        have hsettles := hb.bind hr'
        rw [← heard_append] at hsettles
        exact ⟨r', booked ++ rest, hlike, hbooked.append hrest, List.map_append.symm, hsettles⟩
  ends h := by
    obtain ⟨e, he, rfl⟩ | ⟨b, before, after, hb, hr, rfl⟩ := h.of_bind hs'
    · obtain ⟨r, booked, hlike, _, _, hr⟩ := hw.settled he
      cases hlike
      exact ⟨_, _, hr.bind_error f⟩
    · obtain ⟨r, booked, hlike, _, _, ha⟩ := hw.settled hb
      cases hlike with
      | ok hab =>
        obtain ⟨r, events, hr⟩ := (hf _ _ hab).ends hr
        exact ⟨r, _, ha.bind hr⟩

theorem same (x : Deploy α) (h : ∀ event ∈ x.outcome.events, event.source = .host) :
    Shadows m m' runs (fun a b => a = b) (fun _ => x) (fun _ => x) where
  settles {r events} hr := by
    have hbooked : ∀ events : List Log.Event, (∀ event ∈ events, event.source = .host) →
        ∃ booked, Booked m m' runs booked ∧ events = booked.map Booking.event ∧
          events = heard booked := by
      intro events hall
      induction events with
      | nil => exact ⟨[], .nil, rfl, rfl⟩
      | cons event rest ih =>
        obtain ⟨booked, hbooked, hevents, hheard⟩ := ih fun e he => hall e (.tail _ he)
        refine ⟨⟨event, false⟩ :: booked, .host (hall event (.head _)) hbooked, ?_, ?_⟩
        · rw [List.map_cons, ← hevents]
        · conv_lhs => rw [hheard]
          rfl
    have hx := settles_const_iff.mp hr
    obtain ⟨booked, hb, hevents, hheard⟩ := hbooked events (by rwa [hx] at h)
    exact ⟨r, booked, .refl r, hb, hevents, hheard ▸ hr⟩
  ends hr := ⟨_, _, hr⟩

theorem const {x : Deploy α} {y : Deploy β} {r : Except DeployError α} {r' : Except DeployError β}
    (hx : x.outcome = ⟨r.mapError .error, []⟩) (hy : y.outcome = ⟨r'.mapError .error, []⟩)
    (h : Likewise R r r') : Shadows m m' runs R (fun _ => x) (fun _ => y) where
  settles hr := by
    obtain ⟨rfl, rfl⟩ := hr.unique (settles_const_iff.mpr hx)
    exact ⟨r', [], h, .nil, rfl, settles_const_iff.mpr hy⟩
  ends _ := ⟨r, [], settles_const_iff.mpr hx⟩

/-- The values that are related are those that the work settles to. -/
theorem attained (h : Shadows m m' runs R work work') :
    Shadows m m' runs (fun a b => R a b ∧ (∃ events, Settles work (.ok a) events) ∧
      ∃ events, Settles work' (.ok b) events) work work' where
  settles hr := by
    obtain ⟨r', booked, hlike, hbooked, hevents, hr'⟩ := h.settles hr
    refine ⟨r', booked, ?_, hbooked, hevents, hr'⟩
    cases hlike with
    | error e => exact .error e
    | ok hab => exact .ok ⟨hab, ⟨_, hr⟩, _, hr'⟩
  ends := h.ends

/-- Work that settles by the end of a run. -/
theorem of_runs {c c' : Machine} (hm : m.Silenced m') (hc : runs c c')
    (h : Alongside c c') (hlog : c.store.log = []) (hlog' : c'.store.log = [])
    (hends : ∀ {r events}, Settles work r events → ∃ o after, Ends m c o after)
    (hends' : ∀ {r events}, Settles work' r events → ∃ o after, Ends m' c' o after)
    (hsettles : ∀ {o after after'}, Ends m c o after → Ends m' c' o after' →
      after'.toState = after.toState → ∃ r r', Likewise R r r' ∧ Settles work r after.events ∧
        Settles work' r' after'.events) : Shadows m m' runs R work work' where
  settles hr := by
    obtain ⟨o, after, he⟩ := hends hr
    obtain ⟨booked, after', hb⟩ := h.beside hm he
    obtain ⟨r, r', hlike, hr', hr''⟩ := hsettles hb.ends hb.ends_silenced hb.state
    obtain ⟨rfl, rfl⟩ := hr.unique hr'
    have hbooked : Booked m m' runs (booked ++ []) := .guest hc hb .nil
    rw [List.append_nil] at hbooked
    refine ⟨r', booked, hlike, hbooked, ?_, ?_⟩
    · rw [hb.events, Store.events, hlog]
      rfl
    · rw [hb.events_heard, Store.events, hlog'] at hr''
      exact hr''
  ends hr := by
    obtain ⟨o', after', he'⟩ := hends' hr
    obtain ⟨o, after, he⟩ := h.ends hm he'
    obtain ⟨booked, after'', hb⟩ := h.beside hm he
    obtain ⟨r, _, _, hr, _⟩ := hsettles hb.ends hb.ends_silenced hb.state
    exact ⟨r, _, hr⟩

end Shadows

end DeployTrigger.Guest
