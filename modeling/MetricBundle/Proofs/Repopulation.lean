import MetricBundle.Proofs.Construction
import MetricBundle.Proofs.KindAgreement
import MetricBundle.Proofs.WindowRun

/-!
# Metrics are registered once

A bundle that has been populated can be populated again, with the same factory and the registry that
came of it.  Nothing more is registered then, whether or not all of it was registered the first
time: no field that was refused is accepted later, since every reason for refusing a request stays
while the registry grows (`Factory.spent_of_newMetric`).  What cannot be made at one time cannot be
made at any other (`Telemetry.make_alike`), what clashes with the registry clashes with a larger one
(`Telemetry.registrationDefect_mono`), and a metric that was registered is in the way of its like.

No two fields share a metric either.  The metrics of a bundle have no constant labels, and a metric
without these is the only one of its full name (`Telemetry.fqName_ne_of_registrationDefect`),
whatever namespace, subsystem and name it has been put together from.

A run through the fields adds up from its steps: what is gained (`Factory.gains_of_mapM`), that
every field is settled afterwards (`Factory.settled_of_mapM`), and that nothing comes of going
through settled fields again (`Factory.refused_of_mapM`).

The one thing that is not the same the second time is the clock.  A window can be asked for that is
so long that its first span leaves the range of the clock, and then the run ends in a fault instead
of an answer (`overran_when_populated_again`).  At times when all windows fit it comes to its end.
-/

namespace MetricBundle

/-- Actions that are taken in order end where one of them ends in a fault. -/
theorem Action.mapM_cons_cases {α β : Type} {g : α → Action β} {a : α} {as : List α}
    {t t' : Telemetry} {result : Except Fault (List β)} (h : (a :: as).mapM g t = (result, t')) :
    (∃ fault, g a t = (.error fault, t') ∧ result = .error fault) ∨
    ∃ b t₁ rest, g a t = (.ok b, t₁) ∧ as.mapM g t₁ = (rest, t') ∧
      result = rest.map (b :: ·) := by
  rw [List.mapM_cons] at h
  rcases hfirst : g a t with ⟨first, t₁⟩
  cases first with
  | error fault =>
    obtain ⟨rfl, rfl⟩ := Prod.mk.inj ((bind_of_error hfirst _).symm.trans h)
    exact .inl ⟨fault, rfl, rfl⟩
  | ok b =>
    have h := (bind_of_ok hfirst _).symm.trans h
    rcases hrest : as.mapM g t₁ with ⟨rest, t₂⟩
    cases rest with
    | error fault =>
      obtain ⟨rfl, rfl⟩ := Prod.mk.inj ((bind_of_error hrest _).symm.trans h)
      exact .inr ⟨b, t₁, _, rfl, hrest, rfl⟩
    | ok bs =>
      obtain ⟨rfl, rfl⟩ := Prod.mk.inj ((bind_of_ok hrest _).symm.trans h)
      exact .inr ⟨b, t₁, _, rfl, hrest, rfl⟩

/-! ## Attempts at different times -/

/-- Two attempts end alike, unless one of them leaves the range of the clock. -/
def EndAlike {α β : Type} (x : Except Fault α) (y : Except Fault β) : Prop :=
  x = .error .clockRange ∨ y = .error .clockRange ∨
    (∃ e, x = .error (.metric e) ∧ y = .error (.metric e)) ∨ ∃ a b, x = .ok a ∧ y = .ok b

namespace EndAlike

variable {α β γ δ : Type} {x : Except Fault α} {y : Except Fault β}

theorem map (h : EndAlike x y) (f : α → γ) (g : β → δ) : EndAlike (x.map f) (y.map g) := by
  rcases h with rfl | rfl | ⟨e, rfl, rfl⟩ | ⟨a, b, rfl, rfl⟩
  · exact .inl rfl
  · exact .inr (.inl rfl)
  · exact .inr (.inr (.inl ⟨e, rfl, rfl⟩))
  · exact .inr (.inr (.inr ⟨f a, g b, rfl, rfl⟩))

theorem of_error (e : MetricError) :
    EndAlike (.error (.metric e) : Except Fault α) (.error (.metric e) : Except Fault β) :=
  .inr (.inr (.inl ⟨e, rfl, rfl⟩))

theorem of_ok (a : α) (b : β) : EndAlike (.ok a) (.ok b) :=
  .inr (.inr (.inr ⟨a, b, rfl, rfl⟩))

end EndAlike

/-- The window of a summary that is asked for can be started at the given time. -/
def Request.Fits (r : Request) (now : Nat) : Prop :=
  ∀ o, r.opts = .summary o → r.labels = none → now + o.window.span < Duration.clockLimit

namespace Blueprint

variable (b : Blueprint) (now later : Nat)

theorem newMeter_alike : EndAlike (b.newMeter now) (b.newMeter later) := by
  unfold newMeter
  cases b.opts with
  | counter | gauge => exact .of_ok _ _
  | histogram o =>
    simp only
    split
    · exact .of_ok _ _
    · exact .of_error _
  | summary o =>
    simp only
    split
    · split
      · exact .of_ok _ _
      · exact .inr (.inl rfl)
    · exact .inl rfl

theorem newSeries_alike (values : List String) :
    EndAlike (b.newSeries values now) (b.newSeries values later) := by
  unfold newSeries
  split
  · exact .of_error _
  · split
    · exact .of_error _
    · exact (b.newMeter_alike now later).map _ _

theorem onlySeries_alike : EndAlike (b.onlySeries now) (b.onlySeries later) := by
  unfold onlySeries
  split
  · exact .of_error _
  · exact b.newSeries_alike now later []

variable {b now}

/-- Only the first span of a summary's window leaves the range of the clock. -/
theorem overruns_of_newMeter (h : b.newMeter now = .error .clockRange) :
    ∃ o, b.opts = .summary o ∧ Duration.clockLimit ≤ now + o.window.span := by
  unfold newMeter at h
  split at h
  case h_1 | h_2 => cases h
  case h_3 => split at h <;> cases h
  case h_4 o ho =>
    split at h
    case h_1 => cases h
    case h_2 hnone => exact ⟨o, ho, AgeWindow.limit_le_of_start?_eq_none hnone⟩

theorem overruns_of_onlySeries (h : b.onlySeries now = .error .clockRange) :
    ∃ o, b.opts = .summary o ∧ Duration.clockLimit ≤ now + o.window.span := by
  unfold onlySeries newSeries at h
  split at h
  · cases h
  · split at h
    · cases h
    · split at h
      · cases h
      · exact overruns_of_newMeter (eq_error_of_map_eq_error h)

end Blueprint

namespace Telemetry

theorem make_alike (r : Request) (t s : Telemetry) : EndAlike (t.make r) (s.make r) := by
  unfold make
  split
  case h_1 b hb =>
    unfold build
    split
    · exact (b.onlySeries_alike t.now s.now).map _ _
    · exact .of_ok _ _
  case h_2 => exact .of_error _

/-- What fits can be made, or there is an error of the metric. -/
theorem make_of_fits {r : Request} {t : Telemetry} (h : r.Fits t.now) :
    t.make r ≠ .error .clockRange := by
  intro hfault
  unfold make at hfault
  split at hfault
  case h_1 b hb =>
    obtain ⟨hopts, hshape⟩ := Blueprint.of_eq_ok hb
    unfold build at hfault
    split at hfault
    case h_1 hscalar =>
      obtain ⟨o, ho, hout⟩ :=
        Blueprint.overruns_of_onlySeries (eq_error_of_map_eq_error hfault)
      have hlabels : r.labels = none := by
        rw [hscalar] at hshape
        cases hlabels : r.labels with
        | none => rfl
        | some labels =>
          rw [Request.shape, hlabels] at hshape
          cases hshape
      exact absurd (h o (hopts ▸ ho) hlabels) (Nat.not_lt.mpr hout)
    case h_2 => cases hfault
  case h_2 => cases hfault

/-! ## What cannot be registered -/

theorem registrationDefect_eq_none_iff {registered : List Descriptor} {d : Descriptor} :
    registrationDefect registered d = none ↔
      ∀ r ∈ registered, r.identity ≠ d.identity ∧
        (r.fqName = d.fqName → r.dimensions = d.dimensions) := by
  have hidentity : (registered.any fun r => r.identity == d.identity) = true ↔
      ∃ r ∈ registered, r.identity = d.identity := by
    simp only [List.any_eq_true, beq_iff_eq]
  have hdimensions :
      (registered.any fun r => r.fqName == d.fqName && r.dimensions != d.dimensions) = true ↔
        ∃ r ∈ registered, r.fqName = d.fqName ∧ r.dimensions ≠ d.dimensions := by
    simp only [List.any_eq_true, Bool.and_eq_true, beq_iff_eq, bne_iff_ne]
  unfold registrationDefect
  constructor
  · intro h r hr
    split at h
    case isTrue => cases h
    case isFalse hnew =>
      split at h
      case isTrue => cases h
      case isFalse hagrees =>
        rw [hidentity] at hnew
        rw [hdimensions] at hagrees
        refine ⟨fun heq => hnew ⟨r, hr, heq⟩, fun hname => ?_⟩
        exact Classical.byContradiction fun hne => hagrees ⟨r, hr, hname, hne⟩
  · intro h
    rw [if_neg, if_neg]
    · rw [hdimensions]
      rintro ⟨r, hr, hname, hne⟩
      exact hne ((h r hr).2 hname)
    · rw [hidentity]
      rintro ⟨r, hr, heq⟩
      exact (h r hr).1 heq

/-- What is registered cannot be registered again. -/
theorem registrationDefect_of_mem {registered : List Descriptor} {d : Descriptor}
    (h : d ∈ registered) : registrationDefect registered d = some .alreadyRegistered := by
  have hany : (registered.any fun r => r.identity == d.identity) = true :=
    List.any_eq_true.mpr ⟨d, h, beq_self_eq_true _⟩
  rw [registrationDefect, if_pos hany]

/-- What can be registered could have been registered before. -/
theorem registrationDefect_mono {registered more : List Descriptor} {d : Descriptor}
    (hsub : registered ⊆ more) (h : registrationDefect more d = none) :
    registrationDefect registered d = none :=
  registrationDefect_eq_none_iff.mpr fun r hr => registrationDefect_eq_none_iff.mp h r (hsub hr)

/-- A metric without constant labels is the only one of its full name: any other would share its
dimensions, so would have no constant labels either, and then the same identity. -/
theorem fqName_ne_of_registrationDefect {registered : List Descriptor} {d : Descriptor}
    (hconst : d.constLabels = []) (h : registrationDefect registered d = none) :
    ∀ r ∈ registered, r.fqName ≠ d.fqName := by
  intro r hr hname
  obtain ⟨hidentity, hdimensions⟩ := registrationDefect_eq_none_iff.mp h r hr
  have hnames : r.constLabels.map (·.1) = d.constLabels.map (·.1) :=
    congrArg (fun p => p.2.1) (hdimensions hname)
  rw [hconst, List.map_nil, List.map_eq_nil_iff] at hnames
  apply hidentity
  rw [Descriptor.identity, Descriptor.identity, hname, hnames, hconst]

end Telemetry

namespace Factory

variable {f : Factory} {r : Request} {t t' : Telemetry}
  {result : Except Fault (Except Error Metric)}

/-- How a request can end. -/
inductive Ending (f : Factory) (r : Request) (t : Telemetry) :
    Except Fault (Except Error Metric) → Telemetry → Prop where
  | unnamed : r.opts.common.name.isEmpty = true →
      Ending f r t (.ok (.error (.single .noMetricName))) t
  /-- Nothing could be made. -/
  | unmade {e : MetricError} {w : Telemetry} : r.opts.common.name.isEmpty = false →
      w.make (f.prepareRequest r) = .error (.metric e) → w = t.withLogs w.logs →
      Ending f r t (.ok (.error (.single (.metric e)))) w
  /-- The first span of the window leaves the range of the clock. -/
  | overran {w : Telemetry} : r.opts.common.name.isEmpty = false →
      w.make (f.prepareRequest r) = .error .clockRange → w = t.withLogs w.logs →
      Ending f r t (.error .clockRange) w
  /-- What was made could not be registered. -/
  | unregistered {m : Metric} {e : MetricError} {w extended : Telemetry} :
      r.opts.common.name.isEmpty = false → w.make (f.prepareRequest r) = .ok (m, extended) →
      w = t.withLogs w.logs →
      Telemetry.registrationDefect (t.registry.map Collector.descriptor) m.descriptor = some e →
      Ending f r t (.ok (.error (.single (.metric e)))) w
  | made {m : Metric} {w extended t' : Telemetry} : r.opts.common.name.isEmpty = false →
      w.make (f.prepareRequest r) = .ok (m, extended) →
      Telemetry.registrationDefect (t.registry.map Collector.descriptor) m.descriptor = none →
      t'.now = t.now → t'.registry = t.registry ++ [.metric m] → Ending f r t (.ok (.ok m)) t'

theorem ending_of_newMetric (h : f.newMetric r t = (result, t')) : f.Ending r t result t' := by
  cases hname : r.opts.common.name.isEmpty with
  | true =>
    have hrejected : f.newMetric r t = (.ok (.error (.single .noMetricName)), t) := if_pos hname
    rw [hrejected] at h
    obtain ⟨rfl, rfl⟩ := Prod.mk.inj h
    exact .unnamed hname
  | false =>
    let warned := t.withLogs (t.logs ++ f.warnings r.opts.common)
    have hwarned : f.announce r.opts.common t = warned := announce_eq hname
    have htried : f.newMetric r t = enrol .metric (warned.make (f.prepareRequest r)) warned := by
      rw [← hwarned]
      exact if_neg (Bool.eq_false_iff.mp hname)
    rw [htried] at h
    -- nothing is counted and no tag is read, so these are the faults that making can have
    have hfault {fault : Fault} (hmake : warned.make (f.prepareRequest r) = .error fault) :
        fault = .clockRange ∨ ∃ e, fault = .metric e := by
      rcases Telemetry.make_alike (f.prepareRequest r) warned warned with
        hx | hx | ⟨e, hx, -⟩ | ⟨a, b, hx, -⟩
      · exact .inl (Except.error.inj (hmake.symm.trans hx))
      · exact .inl (Except.error.inj (hmake.symm.trans hx))
      · exact .inr ⟨e, Except.error.inj (hmake.symm.trans hx)⟩
      · exact nomatch hmake.symm.trans hx
    rcases enrol_cases .metric (warned.make (f.prepareRequest r)) warned with
      ⟨e, hmake, hend⟩ | ⟨fault, hmake, hend⟩ | ⟨m, extended, e, hmake, hregister, hend⟩ |
      ⟨m, extended, registered, hmake, hregister, hend⟩
    · rw [hend] at h
      obtain ⟨rfl, rfl⟩ := Prod.mk.inj h
      exact .unmade hname hmake rfl
    · rcases hfault hmake with rfl | ⟨e, rfl⟩
      · rw [hend] at h
        obtain ⟨rfl, rfl⟩ := Prod.mk.inj h
        exact .overran hname hmake rfl
      · rw [hmake] at hend
        cases hend
    · rw [hend] at h
      obtain ⟨rfl, rfl⟩ := Prod.mk.inj h
      have hadds := (Telemetry.make_adds hmake).2
      have hdefect := Telemetry.register_eq_error hregister
      rw [hadds.registry_eq] at hdefect
      exact .unregistered hname hmake rfl hdefect
    · rw [hend] at h
      obtain ⟨rfl, rfl⟩ := Prod.mk.inj h
      have hadds := (Telemetry.make_adds hmake).2
      obtain ⟨hdefect, rfl⟩ := Telemetry.register_eq_ok_iff.mp hregister
      rw [hadds.registry_eq] at hdefect
      exact .made hname hmake hdefect hadds.now_eq (congrArg (· ++ [_]) hadds.registry_eq)

/-- A request that has been answered is spent: as long as everything in the registry stays there, it
is refused and leaves the telemetry as it is.  If it was answered with a metric, that metric is in
the way. -/
def Spent (f : Factory) (r : Request) (answer : Except Error Metric)
    (registry : List Collector) : Prop :=
  ∀ s : Telemetry, registry ⊆ s.registry → ∀ result s', f.newMetric r s = (result, s') →
    s' = s.withLogs s'.logs ∧ ∀ again, result = .ok again →
      ∃ e, again = .error (.single e) ∧ ∀ m, answer = .ok m → e = .metric .alreadyRegistered

theorem Spent.mono {answer : Except Error Metric} {registry more : List Collector}
    (h : f.Spent r answer registry) (hsub : registry ⊆ more) : f.Spent r answer more :=
  fun s hs => h s (fun _ hc => hs (hsub hc))

/-- Two metrics made for one request have the same descriptor. -/
theorem descriptor_eq_of_make {w w' extended extended' : Telemetry} {m m' : Metric}
    (h : w.make r = .ok (m, extended)) (h' : w'.make r = .ok (m', extended')) :
    m.descriptor = m'.descriptor :=
  Except.ok.inj ((Telemetry.make_adds h).1.symm.trans (Telemetry.make_adds h').1)

/-- What can be made at one time is never refused by its making. -/
theorem not_unmade_of_made {w w' extended : Telemetry} {m : Metric} {e : MetricError}
    (h : w.make r = .ok (m, extended)) (h' : w'.make r = .error (.metric e)) : False := by
  rcases Telemetry.make_alike r w w' with hx | hy | ⟨e', hx, -⟩ | ⟨a, b, -, hy⟩
  · rw [h] at hx
    cases hx
  · rw [h'] at hy
    cases hy
  · rw [h] at hx
    cases hx
  · rw [h'] at hy
    cases hy

/-- What has been answered is not made again. -/
theorem not_made_again {answer : Except Error Metric} {s s' : Telemetry} {m : Metric}
    (first : f.Ending r t (.ok answer) t') (hsub : t'.registry ⊆ s.registry) :
    ¬f.Ending r s (.ok (.ok m)) s' := by
  intro again
  cases again with
  | made hname hmake hdefect hnow hregistry =>
    have hsubset : t'.registry.map Collector.descriptor ⊆ s.registry.map Collector.descriptor :=
      List.map_subset _ hsub
    have hdefect := Telemetry.registrationDefect_mono hsubset hdefect
    cases first with
    | unnamed hunnamed =>
      rw [hname] at hunnamed
      cases hunnamed
    | unmade hname' hunmade hw => exact not_unmade_of_made hmake hunmade
    | unregistered hname' hmake' hw hrefused =>
      -- what was in the way of it then is still there
      rw [descriptor_eq_of_make hmake hmake', hw] at hdefect
      exact nomatch hrefused.symm.trans hdefect
    | @made m' w extended _ hname' hmake' hdefect' hnow' hregistry' =>
      -- the metric itself is in the way
      have hmem : m'.descriptor ∈ t'.registry.map Collector.descriptor := by
        rw [hregistry']
        simp [Collector.descriptor]
      rw [descriptor_eq_of_make hmake hmake',
        Telemetry.registrationDefect_of_mem hmem] at hdefect
      cases hdefect

/-- If a metric was made for a request, then what is in the way of another one is the metric. -/
theorem already_of_made {s s' : Telemetry} {m : Metric} {failure : Failure}
    (first : f.Ending r t (.ok (.ok m)) t') (hsub : t'.registry ⊆ s.registry)
    (again : f.Ending r s (.ok (.error (.single failure))) s') :
    failure = .metric .alreadyRegistered := by
  cases first with
  | made hname hmake hdefect hnow hregistry =>
    cases again with
    | unnamed hunnamed =>
      rw [hname] at hunnamed
      cases hunnamed
    | unmade hname' hunmade hw => exact (not_unmade_of_made hmake hunmade).elim
    | unregistered hname' hmake' hw hrefused =>
      have hmem : m.descriptor ∈ s.registry.map Collector.descriptor :=
        List.mem_map.mpr ⟨.metric m, hsub (by rw [hregistry]; simp), rfl⟩
      rw [← descriptor_eq_of_make hmake hmake',
        Telemetry.registrationDefect_of_mem hmem] at hrefused
      rw [Option.some.inj hrefused]

/-- **Every reason to refuse a request stays.**  What cannot be made can never be made; what could
not be registered cannot be registered when there is more in the registry; and a metric that was
registered is in the way of its like. -/
theorem spent_of_newMetric {answer : Except Error Metric}
    (h : f.newMetric r t = (.ok answer, t')) : f.Spent r answer t'.registry := by
  intro s hsub result s' hagain
  have first := ending_of_newMetric h
  have again := ending_of_newMetric hagain
  have hrefused {failure : Failure} (hr : result = .ok (.error (.single failure))) :
      ∀ again, result = .ok again →
        ∃ e, again = .error (.single e) ∧ ∀ m, answer = .ok m → e = .metric .alreadyRegistered := by
    intro other hother
    rw [hr] at hother again
    refine ⟨failure, (Except.ok.inj hother).symm, fun m hm => ?_⟩
    rw [hm] at first
    exact already_of_made first hsub again
  cases again with
  | unnamed hname => exact ⟨rfl, hrefused rfl⟩
  | unmade hname hmake hw => exact ⟨hw, hrefused rfl⟩
  | overran hname hmake hw => exact ⟨hw, fun again ha => nomatch ha⟩
  | unregistered hname hmake hw hdefect => exact ⟨hw, hrefused rfl⟩
  | made hname hmake hdefect hnow hregistry =>
    exact (not_made_again first hsub (.made hname hmake hdefect hnow hregistry)).elim

@[simp] theorem constLabels_prepare (o : Opts) : (f.prepare o).constLabels = o.constLabels := by
  unfold prepare Opts.withDefaults
  simp only
  split <;> rfl

theorem fits_prepareRequest {now : Nat} (h : r.Fits now) : (f.prepareRequest r).Fits now := by
  intro o ho hlabels
  obtain ⟨opts, labels⟩ := r
  cases opts with
  | counter | gauge | histogram => cases ho
  | summary plain =>
    obtain rfl := MetricOpts.summary.inj ho
    exact h plain rfl hlabels

/-- A request that fits is answered. -/
theorem newMetric_of_fits (h : r.Fits t.now) :
    ∃ answer s, f.newMetric r t = (.ok answer, s) := by
  rcases hr : f.newMetric r t with ⟨result, s⟩
  have ending := ending_of_newMetric hr
  cases ending with
  | unnamed | unmade | unregistered | made => exact ⟨_, _, rfl⟩
  | overran hname hmake hw =>
    have hfits : (f.prepareRequest r).Fits s.now := by
      rw [hw]
      exact fits_prepareRequest h
    exact (Telemetry.make_of_fits hfits hmake).elim

end Factory

/-! ## The metrics of a bundle -/

namespace Field

theorem common_optsFor (f : Field) (i : Instrument) :
    (f.optsFor i).value.common = f.commonOpts := by
  cases i <;> rfl

/-- The shared options of a request for a field are the field's own. -/
theorem common_of_call? {f : Field} {r : Request} (h : f.call? = some r) :
    r.opts.common = f.commonOpts := by
  have hopts := (call?_eq_some_iff.mp h).2.1
  cases hkind : f.kind with
  | metric i s =>
    rw [(resolve_of_metric hkind).1] at hopts
    rw [← Option.some.inj hopts, common_optsFor]
  | observer s =>
    rw [(resolve_of_observer hkind).1] at hopts
    unfold observerOpts at hopts
    split at hopts
    case h_1 => cases hopts
    case h_2 i hi =>
      have hvalue : (f.optsFor i).value = r.opts := Option.some.inj hopts
      rw [← hvalue, common_optsFor]
  | other =>
    rw [call?_of_other hkind] at h
    cases h

/-- The factory can be consulted about the field at the given time: no value overflows, and if a
summary is asked for, its window fits. -/
structure InRange (f : Field) (now : Nat) : Prop where
  not_stalls : f.stalls = false
  fits : ∀ r, f.call? = some r → r.Fits now

/-- The reply about a field when it is gone through again, after the first one: if there is a
request for it, that is refused, and if it was answered with a metric the first time, then because
that metric is registered. -/
inductive Refused (f : Field) (first : Reply) : Reply → Prop where
  | unasked : f.call? = none → Refused f first none
  | refused {r : Request} {failure : Failure} : f.call? = some r →
      (∀ m, first = some (.ok m) → failure = .metric .alreadyRegistered) →
      Refused f first (some (.error (.single failure)))

/-- The replies when fields are gone through again, after those of the first time. -/
inductive AllRefused : List Field → List Reply → List Reply → Prop where
  | nil : AllRefused [] [] []
  | cons {f : Field} {fs : List Field} {first again : Reply} {firsts others : List Reply} :
      f.Refused first again → AllRefused fs firsts others →
      AllRefused (f :: fs) (first :: firsts) (again :: others)

/-- A request that has been refused has failed. -/
theorem AllRefused.failures_ne_nil {fs : List Field} {firsts others : List Reply}
    (h : AllRefused fs firsts others) {f : Field} (hmem : f ∈ fs) {r : Request}
    (hcall : f.call? = some r) : MetricBundle.failuresAfter fs others ≠ [] := by
  induction h with
  | nil => cases hmem
  | @cons g gs first again firsts others hrefused _ ih =>
    rw [MetricBundle.failuresAfter, List.zip_cons_cons, List.flatMap_cons, ne_eq,
      List.append_eq_nil_iff, not_and_or]
    rcases List.mem_cons.mp hmem with rfl | hmem
    · left
      cases hrefused with
      | unasked hnone =>
        rw [hcall] at hnone
        cases hnone
      | refused hcall' halready =>
        rw [failuresAfter_error (call?_eq_some_iff.mp hcall).1, Error.failures]
        exact List.cons_ne_nil _ _
    · exact .inr (ih hmem)

end Field

namespace Telemetry

/-- Metrics have been registered, each under a full name that nothing was registered under. -/
structure Gains (t : Telemetry) (created : List Metric) (t' : Telemetry) : Prop where
  now_eq : t'.now = t.now
  registry_eq : t'.registry = t.registry ++ created.map .metric
  fresh : ∀ m ∈ created, ∀ c ∈ t.registry, c.descriptor.fqName ≠ m.fqName
  distinct : (created.map Metric.fqName).Nodup

namespace Gains

variable {t t₁ t₂ : Telemetry} {created more : List Metric}

/-- Only the log has changed. -/
theorem of_withLogs (h : t₁ = t.withLogs t₁.logs) : t.Gains [] t₁ where
  now_eq := by rw [h]; rfl
  registry_eq := by rw [h, List.map_nil, List.append_nil]; rfl
  fresh _ hm := absurd hm List.not_mem_nil
  distinct := List.nodup_nil

theorem registry_subset (h : t.Gains created t₁) : t.registry ⊆ t₁.registry := by
  rw [h.registry_eq]
  exact List.subset_append_left _ _

theorem trans (h : t.Gains created t₁) (h' : t₁.Gains more t₂) :
    t.Gains (created ++ more) t₂ where
  now_eq := h'.now_eq.trans h.now_eq
  registry_eq := by
    rw [h'.registry_eq, h.registry_eq, List.map_append, List.append_assoc]
  fresh := by
    intro m hm c hc
    rcases List.mem_append.mp hm with hm | hm
    · exact h.fresh m hm c hc
    · exact h'.fresh m hm c (h.registry_subset hc)
  distinct := by
    rw [List.map_append, List.nodup_append]
    refine ⟨h.distinct, h'.distinct, ?_⟩
    -- what came first is in the registry by the time the others are registered
    rintro _ hfirst _ hsecond
    obtain ⟨m, hm, rfl⟩ := List.mem_map.mp hfirst
    obtain ⟨m', hm', rfl⟩ := List.mem_map.mp hsecond
    refine h'.fresh m' hm' (.metric m) ?_
    rw [h.registry_eq]
    exact List.mem_append_right _ (List.mem_map_of_mem hm)

end Gains

end Telemetry

namespace Factory

variable {f : Factory} {field : Field} {t t' : Telemetry}

/-- A metric made for a field has no constant labels. -/
theorem constLabels_of_made {r : Request} {m : Metric} {w extended : Telemetry}
    (hcall : field.call? = some r) (hmake : w.make (f.prepareRequest r) = .ok (m, extended)) :
    m.descriptor.constLabels = [] := by
  obtain ⟨-, -, hconst⟩ := Descriptor.of_eq_ok (Telemetry.make_adds hmake).1
  rw [hconst, prepareRequest, MetricOpts.common_withCommon, constLabels_prepare,
    Field.common_of_call? hcall]
  rfl

/-- What is gained when a request for a field is made: the metric, if it is answered with one. -/
theorem gains_of_newMetric {r : Request} (hcall : field.call? = some r)
    {result : Except Fault (Except Error Metric)} (h : f.newMetric r t = (result, t')) :
    ∃ created, t.Gains created t' ∧
      ∀ answer, result = .ok answer → created = (Slots.slotAfter none (some answer)).toList := by
  cases ending_of_newMetric h with
  | unnamed hname => exact ⟨[], .of_withLogs rfl, fun answer ha => by cases ha; rfl⟩
  | unmade hname hmake hw => exact ⟨[], .of_withLogs hw, fun answer ha => by cases ha; rfl⟩
  | overran hname hmake hw => exact ⟨[], .of_withLogs hw, fun answer ha => by cases ha⟩
  | unregistered hname hmake hw hdefect =>
    exact ⟨[], .of_withLogs hw, fun answer ha => by cases ha; rfl⟩
  | @made m w extended _ hname hmake hdefect hnow hregistry =>
    refine ⟨[m], ⟨hnow, hregistry, ?_, by simp⟩, fun answer ha => by cases ha; rfl⟩
    intro m' hm' c hc
    rw [List.mem_singleton.mp hm']
    exact Telemetry.fqName_ne_of_registrationDefect (constLabels_of_made hcall hmake) hdefect
      c.descriptor (List.mem_map_of_mem hc)

/-! ## Going through the fields -/

section Consult

variable {result : Except Fault Reply}

/-- How consulting a factory about a field can end. -/
theorem consult_cases (h : f.toMetricFactory.consult field t = (result, t')) :
    (field.stalls = true ∧ result = .error .tagOverflow ∧ t' = t) ∨
    (field.stalls = false ∧ field.call? = none ∧ result = .ok none ∧ t' = t) ∨
    ∃ r outcome, field.stalls = false ∧ field.call? = some r ∧
      f.newMetric r t = (outcome, t') ∧ result = outcome.map some := by
  cases hstalls : field.stalls with
  | true =>
    rw [MetricFactory.consult_of_stalls _ hstalls] at h
    obtain ⟨rfl, rfl⟩ := Prod.mk.inj h
    exact .inl ⟨rfl, rfl, rfl⟩
  | false =>
    rw [MetricFactory.consult_of_not_stalls _ hstalls] at h
    cases hcall : field.call? with
    | none =>
      rw [hcall] at h
      obtain ⟨rfl, rfl⟩ := Prod.mk.inj h
      exact .inr (.inl ⟨rfl, rfl, rfl, rfl⟩)
    | some r =>
      rw [hcall, Option.mapM_some, map_eq_pure_bind] at h
      rcases hanswer : f.newMetric r t with ⟨outcome, t₁⟩
      cases outcome with
      | ok answer =>
        obtain ⟨rfl, rfl⟩ := Prod.mk.inj ((Action.bind_of_ok hanswer _).symm.trans h)
        exact .inr (.inr ⟨r, _, rfl, rfl, hanswer, rfl⟩)
      | error fault =>
        obtain ⟨rfl, rfl⟩ := Prod.mk.inj ((Action.bind_of_error hanswer _).symm.trans h)
        exact .inr (.inr ⟨r, _, rfl, rfl, hanswer, rfl⟩)

/-- What is gained when a factory is consulted about a field: the metric, if it replies with
one. -/
theorem gains_of_consult (h : f.toMetricFactory.consult field t = (result, t')) :
    ∃ created, t.Gains created t' ∧
      ∀ reply, result = .ok reply → created = (Slots.slotAfter none reply).toList := by
  rcases consult_cases h with ⟨-, rfl, rfl⟩ | ⟨-, -, rfl, rfl⟩ | ⟨r, outcome, -, hcall, hr, rfl⟩
  · exact ⟨[], .of_withLogs rfl, fun reply hreply => nomatch hreply⟩
  · refine ⟨[], .of_withLogs rfl, fun reply hreply => ?_⟩
    rw [← Except.ok.inj hreply]
    rfl
  · obtain ⟨created, hgains, hcreated⟩ := gains_of_newMetric hcall hr
    refine ⟨created, hgains, fun reply hreply => ?_⟩
    obtain ⟨answer, rfl, rfl⟩ := exists_of_map_eq_ok hreply
    exact hcreated answer rfl

end Consult

/-- A field of which there is no more to be had, as long as everything in the registry stays there:
it was not asked about, or its request is spent. -/
inductive Settled (f : Factory) (registry : List Collector) (field : Field) : Reply → Prop where
  | unasked : field.stalls = false → field.call? = none → Settled f registry field none
  | answered {r : Request} {answer : Except Error Metric} : field.stalls = false →
      field.call? = some r → f.Spent r answer registry → Settled f registry field (some answer)

theorem Settled.mono {registry more : List Collector} {reply : Reply}
    (h : f.Settled registry field reply) (hsub : registry ⊆ more) :
    f.Settled more field reply := by
  cases h with
  | unasked hstalls hcall => exact .unasked hstalls hcall
  | answered hstalls hcall hspent => exact .answered hstalls hcall (hspent.mono hsub)

theorem settled_of_consult {reply : Reply}
    (h : f.toMetricFactory.consult field t = (.ok reply, t')) :
    f.Settled t'.registry field reply := by
  rcases consult_cases h with ⟨-, hfault, -⟩ | ⟨hstalls, hcall, hreply, -⟩ |
    ⟨r, outcome, hstalls, hcall, hr, hreply⟩
  · cases hfault
  · obtain rfl := Except.ok.inj hreply
    exact .unasked hstalls hcall
  · obtain ⟨answer, rfl, rfl⟩ := exists_of_map_eq_ok hreply.symm
    exact .answered hstalls hcall (spent_of_newMetric hr)

/-- The field was settled, so nothing comes of consulting the factory about it again. -/
theorem Settled.refused {registry : List Collector} {first : Reply}
    {result : Except Fault Reply} (h : f.Settled registry field first)
    (hsub : registry ⊆ t.registry)
    (hagain : f.toMetricFactory.consult field t = (result, t')) :
    t' = t.withLogs t'.logs ∧ ∀ again, result = .ok again → field.Refused first again := by
  rcases consult_cases hagain with ⟨-, rfl, rfl⟩ | ⟨-, hcall, rfl, rfl⟩ |
    ⟨r, outcome, -, hcall, hr, rfl⟩
  · exact ⟨rfl, fun again ha => nomatch ha⟩
  · refine ⟨rfl, fun again ha => ?_⟩
    obtain rfl := Except.ok.inj ha
    exact .unasked hcall
  · cases h with
    | unasked hstalls hnone =>
      rw [hcall] at hnone
      cases hnone
    | @answered r' answer hstalls hcall' hspent =>
      obtain rfl := Option.some.inj (hcall.symm.trans hcall')
      obtain ⟨hlogs, hrefused⟩ := hspent t hsub outcome t' hr
      refine ⟨hlogs, fun again ha => ?_⟩
      obtain ⟨answer', rfl, rfl⟩ := exists_of_map_eq_ok ha
      obtain ⟨failure, rfl, halready⟩ := hrefused answer' rfl
      exact .refused hcall fun m hm => halready m (Option.some.inj hm)

/-- A factory that can be consulted about a field replies. -/
theorem consult_of_inRange (h : field.InRange t.now) :
    ∃ reply s, f.toMetricFactory.consult field t = (.ok reply, s) := by
  rcases hc : f.toMetricFactory.consult field t with ⟨result, s⟩
  rcases consult_cases hc with ⟨hstalls, -, -⟩ | ⟨-, -, rfl, -⟩ | ⟨r, outcome, -, hcall, hr, rfl⟩
  · rw [h.not_stalls] at hstalls
    cases hstalls
  · exact ⟨none, s, rfl⟩
  · obtain ⟨answer, s', hanswer⟩ := newMetric_of_fits (f := f) (h.fits r hcall)
    obtain ⟨rfl, rfl⟩ := Prod.mk.inj (hr.symm.trans hanswer)
    exact ⟨some answer, s, rfl⟩

/-! ### One field after the other -/

variable {fields : List Field}

/-- The metrics gained by a run are those that the factory replied with, whether or not the run came
to its end. -/
theorem gains_of_mapM {result : Except Fault (List Reply)}
    (h : fields.mapM f.toMetricFactory.consult t = (result, t')) :
    ∃ created, t.Gains created t' ∧
      ∀ replies, result = .ok replies → created = replies.filterMap (Slots.slotAfter none) := by
  induction fields generalizing t result with
  | nil =>
    obtain ⟨rfl, rfl⟩ := Prod.mk.inj h
    refine ⟨[], .of_withLogs rfl, fun replies hreplies => ?_⟩
    obtain rfl := Except.ok.inj hreplies
    rfl
  | cons field fields ih =>
    rcases Action.mapM_cons_cases h with ⟨fault, hfault, rfl⟩ |
      ⟨reply, t₁, rest, hreply, hrest, rfl⟩
    · obtain ⟨created, hgains, -⟩ := gains_of_consult hfault
      exact ⟨created, hgains, fun replies hreplies => nomatch hreplies⟩
    · obtain ⟨created, hgains, hcreated⟩ := gains_of_consult hreply
      obtain ⟨more, hmore, hcreated'⟩ := ih hrest
      refine ⟨created ++ more, hgains.trans hmore, fun replies hreplies => ?_⟩
      obtain ⟨others, rfl, rfl⟩ := exists_of_map_eq_ok hreplies
      rw [hcreated reply rfl, hcreated' others rfl, List.filterMap_cons]
      cases Slots.slotAfter none reply <;> rfl

/-- After a run that came to its end every field is settled. -/
theorem settled_of_mapM {replies : List Reply}
    (h : fields.mapM f.toMetricFactory.consult t = (.ok replies, t')) :
    List.Forall₂ (f.Settled t'.registry) fields replies := by
  induction fields generalizing t replies with
  | nil =>
    obtain ⟨hreplies, -⟩ := Prod.mk.inj h
    obtain rfl := Except.ok.inj hreplies
    exact .nil
  | cons field fields ih =>
    rcases Action.mapM_cons_cases h with ⟨fault, -, hfault⟩ | ⟨reply, t₁, rest, hreply, hrest, hr⟩
    · cases hfault
    · obtain ⟨others, rfl, rfl⟩ := exists_of_map_eq_ok hr.symm
      -- what settles the field stays in the registry to the end of the run
      obtain ⟨more, hgains, -⟩ := gains_of_mapM hrest
      exact .cons ((settled_of_consult hreply).mono hgains.registry_subset) (ih hrest)

/-- A run through settled fields changes nothing but the log. -/
theorem refused_of_mapM {registry : List Collector} {firsts : List Reply}
    {result : Except Fault (List Reply)}
    (hsettled : List.Forall₂ (f.Settled registry) fields firsts) (hsub : registry ⊆ t.registry)
    (h : fields.mapM f.toMetricFactory.consult t = (result, t')) :
    t' = t.withLogs t'.logs ∧ ∀ replies, result = .ok replies →
      Field.AllRefused fields firsts replies := by
  induction hsettled generalizing t result with
  | nil =>
    obtain ⟨rfl, rfl⟩ := Prod.mk.inj h
    refine ⟨rfl, fun replies hreplies => ?_⟩
    obtain rfl := Except.ok.inj hreplies
    exact .nil
  | @cons field first fields firsts hfirst _ ih =>
    rcases Action.mapM_cons_cases h with ⟨fault, hfault, rfl⟩ |
      ⟨reply, t₁, rest, hreply, hrest, rfl⟩
    · exact ⟨(hfirst.refused hsub hfault).1, fun replies hreplies => nomatch hreplies⟩
    · obtain ⟨hlogs, hrefused⟩ := hfirst.refused hsub hreply
      -- the other fields find the registry as this one has
      have hregistry : t₁.registry = t.registry := by
        rw [hlogs]
        rfl
      obtain ⟨hlogs', hrefused'⟩ := ih (hregistry ▸ hsub) hrest
      refine ⟨by rw [hlogs', hlogs]; rfl, fun replies hreplies => ?_⟩
      obtain ⟨others, rfl, rfl⟩ := exists_of_map_eq_ok hreplies
      exact .cons (hrefused reply rfl) (hrefused' others rfl)

/-- A run through fields about which the factory can be consulted comes to its end. -/
theorem mapM_of_inRange (h : ∀ field ∈ fields, field.InRange t.now) :
    ∃ replies s, fields.mapM f.toMetricFactory.consult t = (.ok replies, s) := by
  induction fields generalizing t with
  | nil => exact ⟨[], t, rfl⟩
  | cons field fields ih =>
    obtain ⟨hfield, hfields⟩ := List.forall_mem_cons.mp h
    obtain ⟨reply, t₁, hreply⟩ := consult_of_inRange (f := f) hfield
    obtain ⟨created, hgains, -⟩ := gains_of_consult hreply
    -- no time passes, so the windows of the other fields fit as before
    obtain ⟨replies, s, hreplies⟩ := ih (t := t₁) fun g hg => hgains.now_eq ▸ hfields g hg
    refine ⟨reply :: replies, s, ?_⟩
    rw [List.mapM_cons, Action.bind_of_ok hreply, Action.bind_of_ok hreplies]
    rfl

end Factory

/-! ## Populating twice -/

namespace Schema

/-- What populating comes to, given the replies about the fields: the slots that they settle, unless
something has failed. -/
def outcome (schema : Schema) (replies : List Reply) : Except Error Slots :=
  match (Errors.mk (failuresAfter schema.fields replies)).toExcept with
  | .ok () => .ok ((Slots.ofSchema schema).settled replies)
  | .error errors => .error (.bundle errors)

theorem outcome_of_failures {schema : Schema} {replies : List Reply}
    (h : failuresAfter schema.fields replies ≠ []) :
    schema.outcome replies = .error (.bundle ⟨failuresAfter schema.fields replies⟩) := by
  have hfailed : (Errors.mk (failuresAfter schema.fields replies)).isEmpty = false := by
    rw [Errors.isEmpty, List.isEmpty_eq_false_iff]
    exact h
  rw [outcome, Errors.toExcept, hfailed]
  rfl

/-- The factory can be consulted about every field at the given time. -/
def InRange (schema : Schema) (now : Nat) : Prop := ∀ field ∈ schema.fields, field.InRange now

/-- A valid schema is populated by consulting the factory about every field in order; the replies
decide the outcome. -/
theorem populate_eq {m : Type → Type} [Monad m] [LawfulMonad m] (factory : MetricFactory m)
    {schema : Schema} (hvalid : schema.validate = .ok ()) :
    schema.populate factory = (do
      let replies ← schema.fields.mapM factory.consult
      pure (schema.outcome replies)) := by
  have hslots : (Slots.ofSchema schema).schema = schema := rfl
  rw [populate, hvalid]
  simp only
  rw [Slots.populate_eq factory hslots]
  simp only [bind_assoc, pure_bind]
  congr 1
  funext replies
  rw [outcome]
  cases (Errors.mk (failuresAfter schema.fields replies)).toExcept <;> rfl

end Schema

namespace Factory

/-- How populating a valid schema can end. -/
theorem populate_cases (f : Factory) {schema : Schema} (hvalid : schema.validate = .ok ())
    (t : Telemetry) :
    ∃ result t', schema.fields.mapM f.toMetricFactory.consult t = (result, t') ∧
      schema.populate f.toMetricFactory t = (result.map schema.outcome, t') := by
  rw [Schema.populate_eq f.toMetricFactory hvalid]
  rcases hrun : schema.fields.mapM f.toMetricFactory.consult t with ⟨result, t'⟩
  refine ⟨result, t', rfl, ?_⟩
  cases result with
  | ok replies => exact Action.bind_of_ok hrun _
  | error fault => exact Action.bind_of_error hrun _

/-- **The metrics of a bundle are registered once.**  Populating registers the metrics that the
factory replied with and nothing else, each under a full name of its own that nothing was registered
under.  It comes to its end if the factory can be consulted about every field at that time.  When
the schema is populated again, after it came to its end the first time and with nothing gone from
the registry, nothing is registered, and what is registered is collected as if it had not been.  If
that run comes to its end as well, then every request has been refused; one that was answered with a
metric the first time is refused because that metric is registered. -/
theorem populate_registers_once (f : Factory) {schema : Schema}
    (hvalid : schema.validate = .ok ()) (t : Telemetry) :
    let run (s : Telemetry) := schema.populate f.toMetricFactory s
    ∃ created : List Metric, t.Gains created (run t).2 ∧
      (schema.InRange t.now → ∃ answer, (run t).1 = .ok answer) ∧
      ∀ answer, (run t).1 = .ok answer → ∃ replies : List Reply,
        answer = schema.outcome replies ∧ created = replies.filterMap (Slots.slotAfter none) ∧
        ∀ s : Telemetry, (run t).2.registry ⊆ s.registry →
          (run s).2 = s.withLogs (run s).2.logs ∧
          (Telemetry.gather (run s).2).1 = (Telemetry.gather s).1 ∧
          (schema.InRange s.now → ∃ again, (run s).1 = .ok again) ∧
          ∀ again, (run s).1 = .ok again → ∃ others : List Reply,
            again = schema.outcome others ∧ Field.AllRefused schema.fields replies others ∧
            ∀ field ∈ schema.fields, field.call?.isSome = true →
              again = .error (.bundle ⟨failuresAfter schema.fields others⟩) := by
  intro run
  have hends (s : Telemetry) (h : schema.InRange s.now) : ∃ answer, (run s).1 = .ok answer := by
    obtain ⟨replies, s', hreplies⟩ := mapM_of_inRange (f := f) h
    obtain ⟨result, s'', hrun, hpopulate⟩ := f.populate_cases hvalid s
    obtain ⟨rfl, rfl⟩ := Prod.mk.inj (hreplies.symm.trans hrun)
    exact ⟨schema.outcome replies, congrArg Prod.fst hpopulate⟩
  obtain ⟨result, t', hrun, hpopulate⟩ := f.populate_cases hvalid t
  obtain ⟨created, hgains, hcreated⟩ := gains_of_mapM hrun
  have ht : run t = (result.map schema.outcome, t') := hpopulate
  rw [ht]
  refine ⟨created, hgains, fun h => ?_, fun answer hanswer => ?_⟩
  · rw [← congrArg Prod.fst ht]
    exact hends t h
  obtain ⟨replies, rfl, rfl⟩ := exists_of_map_eq_ok hanswer
  refine ⟨replies, rfl, hcreated replies rfl, fun s hsub => ?_⟩
  obtain ⟨result, s', hrun', hpopulate'⟩ := f.populate_cases hvalid s
  have hs : run s = (result.map schema.outcome, s') := hpopulate'
  obtain ⟨hlogs, hrefused⟩ := refused_of_mapM (settled_of_mapM hrun) hsub hrun'
  refine ⟨by rw [hs]; exact hlogs, ?_, hends s, fun again hagain => ?_⟩
  · rw [hs]
    show (Telemetry.gather s').1 = _
    rw [hlogs, Telemetry.gather_withLogs]
  · rw [hs] at hagain
    obtain ⟨others, rfl, rfl⟩ := exists_of_map_eq_ok hagain
    have hall := hrefused others rfl
    refine ⟨others, rfl, hall, fun field hmem hcall => ?_⟩
    obtain ⟨r, hr⟩ := Option.isSome_iff_exists.mp hcall
    exact Schema.outcome_of_failures (hall.failures_ne_nil hmem hr)

end Factory

/-- A counter, and a gauge that is given the name of the counter. -/
def twinSchema : Schema where
  typeName := "Twins"
  fields :=
    [Field.ofKind "hits" (.metric .counter .scalar),
      (Field.ofKind "level" (.metric .gauge .scalar)).withTag .name "hits"]

theorem populate_registers_once_for_twins :
    let run (s : Telemetry) := twinSchema.populate (Factory.toMetricFactory ⟨"", ""⟩) s
    let t := (run {}).2
    twinSchema.validate = .ok () ∧ t.registry.length = 1 ∧ (run t).2 = t.withLogs (run t).2.logs ∧
      ∃ errors, (run t).1 = .ok (.error (.bundle errors)) := by
  intro run t
  obtain ⟨created, -, -, hpopulated⟩ :=
    Factory.populate_registers_once ⟨"", ""⟩ (show twinSchema.validate = .ok () from rfl) {}
  obtain ⟨replies, -, -, hagain⟩ := hpopulated _ rfl
  obtain ⟨hlogs, -, -, hanswer⟩ := hagain t (List.Subset.refl _)
  obtain ⟨others, -, -, herrors⟩ := hanswer _ rfl
  refine ⟨rfl, rfl, hlogs, _, congrArg Except.ok (herrors _ List.mem_cons_self rfl)⟩

/-- A summary with the longest window that can be started at the origin of the clock. -/
def longestSchema : Schema where
  typeName := "Longest"
  fields :=
    [((Field.ofKind "latency" (.metric .summary .scalar)).withTag .maxAge
      "9223372036854775807s").withTag .ageBuckets "1"]

/-- A second later, its window leaves the range of the clock before the registry can refuse it. -/
theorem overran_when_populated_again :
    let run (s : Telemetry) := longestSchema.populate (Factory.toMetricFactory ⟨"", ""⟩) s
    let later := (run {}).2.advance (Duration.of 1 0)
    longestSchema.validate = .ok () ∧ (∃ slots, (run {}).1 = .ok (.ok slots)) ∧
      (run later).1 = .error .clockRange := by
  refine ⟨rfl, ⟨_, rfl⟩, rfl⟩

end MetricBundle
