import DeployTrigger.Proofs.CommandLine.Instant
import DeployTrigger.Proofs.PathExpansion

/-!
Arguments in another order. A switch is kept together with its value, and neither a value nor the
module path starts with a dash; then each group of arguments adds to what was found, and nothing else
matters to the options (`resolved_perm`).
-/
namespace DeployTrigger.CommandLine

/-- An argument that does not start with a dash. -/
structure Undashed where
  bytes : Bytes
  undashed : bytes.head? ≠ some Mention.dash

/-- What a switch is called: its long name, and its letter if it has one. -/
def Switch.names (k : Switch) : List String :=
  ("--" ++ k.long) :: (k.short?.map fun c => "-" ++ String.singleton c).toList

/-- Arguments that stay together. -/
inductive Group where
  /-- The path of the module. -/
  | path (value : Undashed)
  /-- A switch and its value. -/
  | option (k : Switch) (takes : k.takesValue = true) (name : String) (named : name ∈ k.names)
      (value : Undashed)
  | schemas
  | verbose
  /-- One letter for more of the log, and some more of it. -/
  | letters (more : Nat)

namespace Group

/-- The arguments of a group. -/
def arguments : Group → List Bytes
  | path value => [value.bytes]
  | option _ _ name _ value => [utf8 name, value.bytes]
  | schemas => [utf8 "--schemas"]
  | verbose => [utf8 "--verbose"]
  | letters more => [utf8 ("-" ++ String.ofList (List.replicate (more + 1) 'v'))]

def paths : Group → List Bytes
  | path value => [value.bytes]
  | _ => []

/-- The switches that a group is about, with their values. -/
def found : Group → List (Switch × Option Bytes)
  | path _ => []
  | option k _ _ _ value => [(k, some value.bytes)]
  | schemas => [(.schemas, none)]
  | verbose => [(.verbose, none)]
  | letters more => List.replicate (more + 1) (.verbose, none)

end Group

/-! What the arguments of a group say by themselves. -/

theorem Undashed.ofBytes (v : Undashed) : Argument.ofBytes v.bytes = .plain v.bytes :=
  ofBytes_of_ne_dash fun rest hrest => v.undashed (by rw [hrest]; rfl)

theorem Switch.ofBytes_name {k : Switch} {name : String} (h : name ∈ k.names) :
    Argument.ofBytes (utf8 name) = .switches [.switch k none] := by
  revert name
  cases k <;> decide

theorem ofLetters_replicate (n : Nat) : Mention.ofLetters [] (List.replicate n 'v') =
    List.replicate n (.switch .verbose none) := by
  induction n with
  | zero => rfl
  | succ n ih =>
    have hletter : Switch.ofShort? 'v' = some .verbose := Switch.ofShort?_short rfl
    rw [List.replicate_succ, List.replicate_succ, Mention.ofLetters, hletter, ← ih]
    rfl

theorem utf8_letters (n : Nat) :
    utf8 (String.ofList (List.replicate n 'v')) = List.replicate n 0x76 := by
  induction n with
  | zero => rfl
  | succ n ih =>
    have hcons : String.ofList (List.replicate (n + 1) 'v') =
        "v" ++ String.ofList (List.replicate n 'v') := by
      rw [List.replicate_succ, String.ofList_cons]
      rfl
    rw [hcons, utf8_append, ih]
    rfl

theorem fault?_letters (n : Nat) : Utf8.fault? (List.replicate n 0x76) = none := by
  have hfrom (p : Utf8.Partial) (i : Nat) (hp : p.owed = 0) :
      Utf8.faultFrom p i (List.replicate n 0x76) = none := by
    induction n generalizing p i with
    | zero => exact if_pos hp
    | succ n ih =>
      rw [List.replicate_succ, Utf8.faultFrom, if_pos hp]
      exact ih _ _ rfl
  exact hfrom _ _ rfl

theorem ofBytes_letters (n : Nat) :
    Argument.ofBytes (utf8 ("-" ++ String.ofList (List.replicate (n + 1) 'v'))) =
      .switches (List.replicate (n + 1) (.switch .verbose none)) := by
  have hletters := utf8_letters (n + 1)
  have hshort : Mention.ofShort (List.replicate (n + 1) 0x76) =
      List.replicate (n + 1) (.switch .verbose none) := by
    rw [Mention.ofShort, fault?_letters]
    dsimp only
    rw [List.drop_length, List.take_length, ← hletters, Utf8.lossy_utf8, String.toList_ofList]
    exact ofLetters_replicate (n + 1)
  rw [utf8_append, hletters, ← hshort]
  rfl

theorem eq_of_perm_of_length_le_one {α : Type} {l l' : List α} (h : l.Perm l')
    (hl : l.length ≤ 1) : l = l' := by
  match l, hl with
  | [], _ => exact h.nil_eq
  | [a], _ => exact (List.perm_singleton.mp h.symm).symm

namespace Scan
variable {s t u : Scan} {k : Switch} {w : Option Bytes} {g : Group} {gs gs' : List Group}

/-- A value that has to be text is text. -/
def Readable (f : Switch × Option Bytes) : Prop :=
  ∀ b, f.2 = some b → f.1.takesText = true → (Utf8.decode? b).isSome = true

theorem add_eq_ok_iff :
    s.add k w = .ok t ↔ Readable (k, w) ∧ t = { s with found := s.found ++ [(k, w)] } := by
  have hreadable : Readable (k, w) ↔
      ¬ (k.takesText && (w.bind Utf8.decode?).isNone && w.isSome) = true := by
    cases w with
    | none => simp [Readable]
    | some b => simp [Readable, Option.isSome_iff_ne_none]
  rw [add, hreadable]
  constructor
  · intro h
    split at h
    · cases h
    · rename_i hok
      exact ⟨hok, (Except.ok.inj h).symm⟩
  · rintro ⟨hok, rfl⟩
    exact if_neg hok

/-- The scan without an open switch. -/
def closed (s : Scan) : Scan := { s with current := none, found := s.found ++ s.current.toList }

/-- The open switch can be closed if its value is readable. -/
theorem settle_eq_ok_iff :
    s.settle = .ok t ↔ (∀ f ∈ s.current.toList, Readable f) ∧ t = s.closed := by
  rw [settle, closed]
  cases hcurrent : s.current with
  | some f => simp [add_eq_ok_iff]
  | none =>
    have hsame : { s with current := none, found := s.found ++ [] } = s := by
      rw [List.append_nil, ← hcurrent]
    rw [Option.toList_none, hsame]
    exact ⟨fun h => ⟨List.forall_mem_nil _, (Except.ok.inj h).symm⟩, fun h => by rw [h.2]⟩

/-- No value is always readable. -/
theorem add_none (s : Scan) (k : Switch) :
    s.add k none = .ok { s with found := s.found ++ [(k, none)] } :=
  add_eq_ok_iff.mpr ⟨nofun, rfl⟩

theorem foldlM_mention_flag (htakes : k.takesValue = false) (hhelp : k ≠ .help)
    (hversion : k ≠ .version) (n : Nat) (hcurrent : s.current = none) :
    (List.replicate n (.switch k none)).foldlM mention s =
      .ok { s with found := s.found ++ List.replicate n (k, none) } := by
  induction n generalizing s with
  | zero =>
    rw [List.replicate_zero, List.replicate_zero, List.append_nil]
    rfl
  | succ n ih =>
    have hsettle : s.settle = .ok s := by rw [settle, hcurrent]
    have hfirst : s.mention (.switch k none) = .ok { s with found := s.found ++ [(k, none)] } := by
      rw [mention_none hhelp hversion, hsettle]
      exact (if_neg (by simp [htakes])).trans (add_none s k)
    rw [List.replicate_succ, List.foldlM_cons, hfirst]
    refine (ih (s := { s with found := s.found ++ [(k, none)] }) hcurrent).trans ?_
    rw [List.append_assoc]
    rfl

/-- Switches without a value close the open switch and are found. -/
theorem argument_flag {b : Bytes} {n : Nat} (hseparated : s.separated = false)
    (hb : Argument.ofBytes b = .switches (List.replicate (n + 1) (.switch k none)))
    (htakes : k.takesValue = false) (hhelp : k ≠ .help) (hversion : k ≠ .version) :
    s.argument b = s.settle >>= fun u =>
      .ok { u with found := u.found ++ List.replicate (n + 1) (k, none) } := by
  rw [argument_of_switches hseparated hb, List.replicate_succ, List.foldlM_cons,
    mention_none hhelp hversion]
  cases hsettle : s.settle with
  | error e => rfl
  | ok u =>
    have hcurrent : u.current = none := by rw [eq_of_settle hsettle]
    change ((if k.takesValue then _ else u.add k none) >>= _) = _
    rw [htakes, if_neg Bool.false_ne_true, add_none]
    refine (foldlM_mention_flag (s := { u with found := u.found ++ [(k, none)] }) htakes hhelp
      hversion n hcurrent).trans ?_
    rw [List.append_assoc]
    rfl

/-- A switch with its value closes the open switch and is open in its place. -/
theorem arguments_option (hseparated : s.separated = false) (htakes : k.takesValue = true)
    {name : String} (hname : name ∈ k.names) (v : Undashed) :
    [utf8 name, v.bytes].foldlM argument s = s.settle >>= fun u =>
      .ok { u with current := some (k, some v.bytes) } := by
  have hhelp : k ≠ .help := by
    rintro rfl
    cases htakes
  have hversion : k ≠ .version := by
    rintro rfl
    cases htakes
  rw [List.foldlM_cons, argument_of_switches hseparated (Switch.ofBytes_name hname),
    List.foldlM_cons, mention_none hhelp hversion]
  cases hsettle : s.settle with
  | error e => rfl
  | ok u =>
    have hopen : u.separated = false := by rw [eq_of_settle hsettle, hseparated]
    have hvalue := argument_of_waits (s := { u with current := some (k, none) }) rfl hopen v.ofBytes
    change ((if k.takesValue then _ else u.add k none) >>= pure) >>= _ = _
    rw [htakes, if_pos rfl]
    change (argument _ v.bytes >>= pure) = _
    rw [hvalue]
    rfl

/-- A closed scan behind a group, the switch of which is left open if it has a value. -/
def behind (u : Scan) : Group → Scan
  | .path v => { u with module := some v.bytes }
  | .option k _ _ _ v => { u with current := some (k, some v.bytes) }
  | g => { u with found := u.found ++ g.found }

theorem arguments_path (hseparated : s.separated = false) (hwait : ¬ s.Waits) (v : Undashed) :
    [v.bytes].foldlM argument s = .ok t ↔
      s.module = none ∧ ∃ u, s.settle = .ok u ∧ t = { u with module := some v.bytes } := by
  change (s.argument v.bytes >>= pure) = _ ↔ _
  rw [bind_pure, argument_of_not_waits hwait hseparated v.ofBytes, positional]
  cases s.module with
  | some path => simp [misuse]
  | none =>
    dsimp only
    rw [bind_eq_ok_iff]
    constructor
    · rintro ⟨u, hu, ht⟩
      exact ⟨rfl, u, hu, (Except.ok.inj ht).symm⟩
    · rintro ⟨_, u, hu, rfl⟩
      exact ⟨u, hu, rfl⟩

theorem arguments_flag {b : Bytes} {n : Nat} (hseparated : s.separated = false)
    (hb : Argument.ofBytes b = .switches (List.replicate (n + 1) (.switch k none)))
    (htakes : k.takesValue = false) (hhelp : k ≠ .help) (hversion : k ≠ .version) :
    [b].foldlM argument s = .ok t ↔ ∃ u, s.settle = .ok u ∧
      t = { u with found := u.found ++ List.replicate (n + 1) (k, none) } := by
  change (s.argument b >>= pure) = _ ↔ _
  rw [bind_pure, argument_flag hseparated hb htakes hhelp hversion, bind_eq_ok_iff]
  simp only [Except.ok.injEq, eq_comm]

/-- A group is taken if the open switch can be closed and the module path is the first one. -/
theorem foldlM_arguments_eq_ok_iff (hseparated : s.separated = false) (hwait : ¬ s.Waits) :
    g.arguments.foldlM argument s = .ok t ↔
      (g.paths = [] ∨ s.module = none) ∧ ∃ u, s.settle = .ok u ∧ t = u.behind g := by
  cases g with
  | path v =>
    rw [Group.arguments, arguments_path hseparated hwait]
    simp [Group.paths, behind]
  | option k htakes name hname v =>
    rw [Group.arguments, arguments_option hseparated htakes hname, bind_eq_ok_iff]
    simp [Group.paths, behind, eq_comm]
  | schemas =>
    rw [Group.arguments,
      arguments_flag (k := .schemas) (n := 0) hseparated (by decide) rfl (by decide) (by decide)]
    simp [Group.paths, Group.found, behind]
  | verbose =>
    rw [Group.arguments,
      arguments_flag (k := .verbose) (n := 0) hseparated (by decide) rfl (by decide) (by decide)]
    simp [Group.paths, Group.found, behind]
  | letters more =>
    rw [Group.arguments,
      arguments_flag (k := .verbose) hseparated (ofBytes_letters more) rfl (by decide) (by decide)]
    simp [Group.paths, Group.found, behind]

section Behind
variable (hcurrent : u.current = none)
include hcurrent

theorem not_waits_behind (g : Group) : ¬ (u.behind g).Waits := by
  rintro ⟨j, hj⟩
  cases g with
  | option => cases hj
  | path => exact Option.some_ne_none _ (hj.symm.trans hcurrent)
  | schemas => exact Option.some_ne_none _ (hj.symm.trans hcurrent)
  | verbose => exact Option.some_ne_none _ (hj.symm.trans hcurrent)
  | letters => exact Option.some_ne_none _ (hj.symm.trans hcurrent)

theorem found_behind (g : Group) :
    (u.behind g).found ++ (u.behind g).current.toList = u.found ++ g.found := by
  cases g <;> simp [behind, Group.found, hcurrent]

theorem readable_behind (g : Group) :
    (∀ f ∈ (u.behind g).current.toList, Readable f) ↔ ∀ f ∈ g.found, Readable f := by
  have hflag (k : Switch) : Readable (k, none) := nofun
  cases g <;> simp [behind, Group.found, hcurrent, hflag]

end Behind

theorem separated_behind (u : Scan) (g : Group) : (u.behind g).separated = u.separated := by
  cases g <;> rfl

theorem module_behind (h : g.paths = [] ∨ u.module = none) :
    (u.behind g).module.toList = u.module.toList ++ g.paths := by
  cases g <;> simp_all [behind, Group.paths]

/-- What scanning groups of arguments finds: the path, if it is the only one, and the switches in
their order. By induction on the groups, whatever switch is open in front of them. -/
theorem foldlM_groups_eq_ok_iff (hseparated : s.separated = false) (hwait : ¬ s.Waits) :
    (gs.flatMap Group.arguments).foldlM argument s >>= finish = .ok t ↔
      (s.module.toList ++ gs.flatMap Group.paths).length ≤ 1 ∧
      (∀ f ∈ s.current.toList ++ gs.flatMap Group.found, Readable f) ∧
      t = {
        module := (s.module.toList ++ gs.flatMap Group.paths).head?
        found := s.found ++ s.current.toList ++ gs.flatMap Group.found } := by
  induction gs generalizing s with
  | nil =>
    change s.finish = _ ↔ _
    have hclosed : s.closed = ⟨s.module.toList.head?, s.closed.found, none, false⟩ := by
      rw [Option.head?_toList, ← hseparated]
      rfl
    have hlength : s.module.toList.length ≤ 1 := by cases s.module <;> simp
    rw [finish_of_not_waits hwait, settle_eq_ok_iff, hclosed, List.flatMap_nil, List.flatMap_nil]
    simp only [List.append_nil, hlength, true_and, closed]
  | cons g gs ih =>
    -- The scan behind the group holds what the closed scan and the group hold together.
    have hrest (hpath : g.paths = [] ∨ s.module = none) :=
      ih (s := s.closed.behind g) ((separated_behind _ g).trans hseparated)
        (not_waits_behind rfl g)
    simp only [List.forall_mem_append, readable_behind (u := s.closed) rfl g,
      found_behind (u := s.closed) rfl g] at hrest
    rw [List.flatMap_cons, List.foldlM_append, bind_assoc, bind_eq_ok_iff, List.flatMap_cons,
      List.flatMap_cons, ← List.append_assoc, ← List.append_assoc, ← List.append_assoc]
    simp only [List.forall_mem_append]
    constructor
    · rintro ⟨s', hs', ht⟩
      obtain ⟨hpath, u, hu, rfl⟩ := (foldlM_arguments_eq_ok_iff hseparated hwait).mp hs'
      obtain ⟨hreadable, rfl⟩ := settle_eq_ok_iff.mp hu
      obtain ⟨hlength, ⟨hgroup, hgroups⟩, ht⟩ := (hrest hpath).mp ht
      rw [module_behind (u := s.closed) hpath] at hlength ht
      exact ⟨hlength, ⟨⟨hreadable, hgroup⟩, hgroups⟩, ht⟩
    · rintro ⟨hlength, ⟨⟨hreadable, hgroup⟩, hgroups⟩, ht⟩
      have hpath : g.paths = [] ∨ s.module = none := by
        rw [List.length_append, List.length_append] at hlength
        cases hmodule : s.module with
        | none => exact .inr rfl
        | some path =>
          rw [hmodule, Option.toList_some, List.length_singleton] at hlength
          exact .inl (List.length_eq_zero_iff.mp (by omega))
      refine ⟨s.closed.behind g, ?_, (hrest hpath).mpr ?_⟩
      · rw [foldlM_arguments_eq_ok_iff hseparated hwait]
        exact ⟨hpath, _, settle_eq_ok_iff.mpr ⟨hreadable, rfl⟩, rfl⟩
      · rw [module_behind (u := s.closed) hpath]
        exact ⟨hlength, ⟨hgroup, hgroups⟩, ht⟩

/-- Groups in another order find the same, in another order. -/
theorem ofArguments_perm (h : gs.Perm gs')
    (ht : ofArguments (gs.flatMap Group.arguments) = .ok t) :
    ∃ t', ofArguments (gs'.flatMap Group.arguments) = .ok t' ∧ t'.module = t.module ∧
      t.found.Perm t'.found := by
  have hwait : ¬ ({} : Scan).Waits := nofun
  obtain ⟨hlength, hreadable, rfl⟩ := (foldlM_groups_eq_ok_iff rfl hwait).mp ht
  have hfound : (gs.flatMap Group.found).Perm (gs'.flatMap Group.found) := h.flatMap_right _
  have hpaths : gs'.flatMap Group.paths = gs.flatMap Group.paths :=
    (eq_of_perm_of_length_le_one (h.flatMap_right _) hlength).symm
  refine ⟨_, (foldlM_groups_eq_ok_iff rfl hwait).mpr ⟨?_, ?_, rfl⟩, ?_, hfound⟩
  · rw [hpaths]
    exact hlength
  · exact fun f hf => hreadable f (hfound.mem_iff.mpr hf)
  · rw [hpaths]

theorem length_values_le_count (s : Scan) (k : Switch) : (s.values k).length ≤ s.count k := by
  have hvalues : s.values k = (s.found.filter (·.1 = k)).filterMap (·.2) := by
    rw [values, List.filterMap_filter]
    simp
  rw [hvalues, count, List.countP_eq_length_filter]
  exact List.length_filterMap_le _ _

end Scan

namespace Options
variable {s s' : Scan} {k : Switch} {o : Options}

section Perm
variable (h : s.found.Perm s'.found)
include h

theorem values_perm (k : Switch) : (s.values k).Perm (s'.values k) := h.filterMap _

theorem count_perm (k : Switch) : s'.count k = s.count k := (h.countP_eq _).symm

theorem checkSwitch_perm (hcheck : checkSwitch s k = .ok ()) : checkSwitch s' k = .ok () := by
  have hvalues := values_perm h k
  rw [checkSwitch_eq_ok_iff] at hcheck ⊢
  obtain ⟨hempty, hall, hcount⟩ := hcheck
  refine ⟨?_, fun b hb => hall b (hvalues.mem_iff.mpr hb), ?_⟩
  · rwa [← hvalues.isEmpty_eq]
  · rwa [count_perm h k]

/-- A switch that may not be repeated has one value at most, so there is only one order. -/
theorem values_eq_of_perm (hk : k ≠ .verbose)
    (hchecks : ∀ k ∈ s.found.map (·.1), checkSwitch s k = .ok ()) : s'.values k = s.values k := by
  by_cases hmem : k ∈ s.found.map (·.1)
  · obtain ⟨-, -, hcount⟩ := checkSwitch_eq_ok_iff.mp (hchecks k hmem)
    have hone : s.count k ≤ 1 := by simpa [hk] using hcount
    have hlength := Nat.le_trans (s.length_values_le_count k) hone
    exact (eq_of_perm_of_length_le_one (values_perm h k) hlength).symm
  · have hnone := (values_of_not_found hmem).1
    have hperm := values_perm h k
    rw [hnone] at hperm ⊢
    exact hperm.nil_eq.symm

theorem gathered_perm (hchecks : ∀ k ∈ s.found.map (·.1), checkSwitch s k = .ok ())
    (path : Bytes) : gathered s' path = gathered s path := by
  simp only [gathered, values_eq_of_perm h (k := .config) (by decide) hchecks,
    values_eq_of_perm h (k := .entrypoint) (by decide) hchecks,
    values_eq_of_perm h (k := .timeout) (by decide) hchecks,
    values_eq_of_perm h (k := .instant) (by decide) hchecks, count_perm h]

/-- The options do not depend on the order in which switches were found. -/
theorem ofScan_perm (hmodule : s'.module = s.module) (ho : ofScan s = .ok o) :
    ofScan s' = .ok o := by
  obtain ⟨path, hpath, hchecks, rfl⟩ := ofScan_eq_ok_iff.mp ho
  refine ofScan_eq_ok_iff.mpr ⟨path, hmodule.trans hpath, ?_, (gathered_perm h hchecks path).symm⟩
  intro k hk
  exact checkSwitch_perm h (hchecks k ((h.map _).mem_iff.mpr hk))

end Perm

theorem ofArguments_perm {gs gs' : List Group} (h : gs.Perm gs')
    (ho : ofArguments (gs.flatMap Group.arguments) = .ok o) :
    ofArguments (gs'.flatMap Group.arguments) = .ok o := by
  obtain ⟨t, ht, hscan⟩ := bind_eq_ok_iff.mp ho
  obtain ⟨t', ht', hmodule, hfound⟩ := Scan.ofArguments_perm h ht
  exact bind_eq_ok_iff.mpr ⟨t', ht', ofScan_perm hfound hmodule hscan⟩

end Options

/-- What the arguments come to in a world, `clock` being the clock to deploy by. -/
structure Resolved where
  modulePath : Except (Fault IoError) String
  settings : Except (Fault IoError) Config
  clock : Clock
  schemas : Bool
  verbosity : Nat

/-- What the program makes of its arguments, if it accepts them. -/
def resolved? (w : World) (system : Clock) (args : List Bytes) : Option Resolved :=
  (Options.ofArguments args).toOption.map fun o =>
    ⟨o.modulePath w, o.settings w, o.clock system, o.schemas, o.verbosity⟩

/-- In whatever order groups of arguments are given, they are accepted or not, and come to the same. -/
theorem resolved_perm {gs gs' : List Group} (h : gs.Perm gs') (w : World) (system : Clock) :
    resolved? w system (gs'.flatMap Group.arguments) =
      resolved? w system (gs.flatMap Group.arguments) := by
  have hsame : (Options.ofArguments (gs'.flatMap Group.arguments)).toOption =
      (Options.ofArguments (gs.flatMap Group.arguments)).toOption := by
    cases ho : Options.ofArguments (gs.flatMap Group.arguments) with
    | ok o => rw [Options.ofArguments_perm h ho]
    | error e =>
      cases ho' : Options.ofArguments (gs'.flatMap Group.arguments) with
      | error e' => rfl
      | ok o => cases ho.symm.trans (Options.ofArguments_perm h.symm ho')
  rw [resolved?, resolved?, hsame]

/-- The module path, a timeout, the letter for the log twice and an entrypoint. -/
def moduleFirst (timeout : Undashed) : List Group :=
  [.path ⟨utf8 "m.wasm", by decide⟩, .option .timeout rfl "-t" (by decide) timeout, .letters 1,
    .option .entrypoint rfl "--entrypoint" (by decide) ⟨utf8 "go", by decide⟩]

/-- In the other direction they come to the same; a timeout that is none is refused there, too. -/
theorem module_last_resolves :
    resolved? .bare (.fixed .epoch)
      ((moduleFirst ⟨utf8 "60", by decide⟩).reverse.flatMap Group.arguments) =
        some ⟨.ok "m.wasm", .ok ⟨"go", some (.ofSeconds 60), {}⟩, .fixed .epoch, false, 2⟩ ∧
    resolved? .bare (.fixed .epoch)
      ((moduleFirst ⟨utf8 "soon", by decide⟩).reverse.flatMap Group.arguments) = none := by
  have hperm (timeout : Undashed) : (moduleFirst timeout).Perm (moduleFirst timeout).reverse :=
    (List.reverse_perm _).symm
  constructor
  · have hpath : expandPath .bare (utf8 "m.wasm") = .ok "m.wasm" :=
      expandPath_of_no_dollar (by decide) (by decide)
    have hargs : Options.ofArguments
        ((moduleFirst ⟨utf8 "60", by decide⟩).flatMap Group.arguments) =
          .ok ⟨utf8 "m.wasm", none, some "go", some 60, none, false, 2⟩ := by
      rfl
    rw [resolved_perm (hperm _), resolved?, hargs]
    simp only [Except.toOption, Option.map_some, Options.modulePath, hpath]
    rfl
  · have hargs : Options.ofArguments
        ((moduleFirst ⟨utf8 "soon", by decide⟩).flatMap Group.arguments) =
          .error (.misuse (.invalidValue .timeout "soon" "invalid digit found in string")) := by
      rfl
    rw [resolved_perm (hperm _), resolved?, hargs]
    rfl

end DeployTrigger.CommandLine
