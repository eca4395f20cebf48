import SchemaTypes.CommandLine
import SchemaTypes.Proofs.Fallible

/-!
# What arguments give to flags

Arguments give texts to flags: attached to the flag itself, attached to the last of some letters
behind one hyphen, or as the operand behind it. `textsFor` lists the texts that a flag is given,
from left to right and without taking options. The options that are taken hold the value of the last
of these texts, and if there is none, what holds without arguments (`takenFrom_of_parse`). So for a
flag that holds nothing without arguments, the options hold a value just if it is given, be this
value empty or a zero (`TakenFrom.value?_eq_some_iff`).
-/

namespace SchemaTypes
namespace CommandLine

/-- What options hold for a flag with a value. -/
def Options.value? (options : Options) : Flag → Option Value
  | .output => some options.output
  | .schema => some options.schema
  | .host => options.host
  | .port => options.port
  | .user => options.user
  | .password => options.password
  | .database => options.database
  | .connFile => options.connFile
  | .help | .dryRun | .verbose => none

/-- The last flag of what is written as one, if it takes a value, with the text attached to it. -/
def finalOf (flag : Flag) (isLong : Bool) (attached : Option (List Char)) :
    Option (Flag × Option String) :=
  match clusterOf flag isLong attached with
  | .ok found => found.final
  | .error _ => none

/-- The flags that are given a text, in order, and the texts. -/
def given : List Argument → List (Flag × String)
  | [] => []
  | .flag flag isLong attached :: rest =>
    match finalOf flag isLong attached, rest with
    | some (last, some text), rest => (last, text) :: given rest
    | some (last, none), .operand text :: rest => (last, text) :: given rest
    | _, rest => given rest
  | _ :: rest => given rest

/-- The texts that a flag is given, in order. -/
def textsFor (flag : Flag) (arguments : List Argument) : List String :=
  ((given arguments).filter (·.1 = flag)).map (·.2)

/-- The value of the last of some texts for a flag, or a value that holds without them. -/
def lastValue? (flag : Flag) (start : Option Value) (texts : List String) : Option Value :=
  match texts.getLast? with
  | some text => (valueOf flag text).toOption
  | none => start

theorem lastValue?_cons (flag : Flag) (start : Option Value) (text : String) (texts : List String) :
    lastValue? flag start (text :: texts) =
      lastValue? flag (valueOf flag text).toOption texts := by
  cases texts with
  | nil => rfl
  | cons next texts =>
    rw [lastValue?, lastValue?, List.getLast?_cons_cons, List.getLast?_cons]

/-! ## Single flags -/

variable {options taken : Options}

theorem value?_of_takeFlag {flag : Flag} (h : takeFlag options flag = .ok taken) :
    taken.value? = options.value? := by
  funext other
  cases flag <;> cases h <;> cases other <;> rfl

theorem value?_of_takeFlags {flags : List Flag} (h : flags.foldlM takeFlag options = .ok taken) :
    taken.value? = options.value? := by
  induction flags generalizing options with
  | nil =>
    cases h
    rfl
  | cons flag flags ih =>
    rw [List.foldlM_cons, bind_eq_ok_iff] at h
    obtain ⟨next, hflag, hflags⟩ := h
    rw [ih hflags, value?_of_takeFlag hflag]

/-- Taking a value for a flag changes what options hold for this flag and for no other. -/
theorem value?_of_takeValue {flag : Flag} {text : String} (hflag : flag.takesValue = true)
    (h : takeValue options flag text = .ok taken) (other : Flag) :
    taken.value? other =
      if flag = other then (valueOf flag text).toOption else options.value? other := by
  rw [takeValue, bind_eq_ok_iff] at h
  obtain ⟨value, hvalue, h⟩ := h
  rw [hvalue]
  cases flag with
  | help | dryRun | verbose => exact absurd hflag (by decide)
  | output | schema | host | port | user | password | database | connFile =>
    cases h
    cases other <;> rfl

/-! ## Clusters -/

theorem takesValue_of_final_single {flag last : Flag} {text : Option String}
    (h : (Cluster.single flag).final = some (last, text)) : last.takesValue = true := by
  unfold Cluster.single at h
  split at h
  · rename_i hflag
    cases h
    exact hflag
  · cases h

theorem takesValue_of_final_cluster {flag last : Flag} {cs : List Char} {found : Cluster}
    {text : Option String} (h : cluster flag cs = .ok found)
    (hfinal : found.final = some (last, text)) : last.takesValue = true := by
  fun_induction cluster flag cs generalizing found with
  | case1 flag hflag =>
    cases h
    cases hfinal
    exact hflag
  | case3 flag letter rest hflag =>
    cases h
    cases hfinal
    exact hflag
  | case2 | case4 => cases h
  | case5 flag letter hflag next hnext =>
    cases h
    exact takesValue_of_final_single hfinal
  | case6 flag letter hflag next other others hnext ih =>
    cases hothers : cluster next (other :: others) with
    | error reason =>
      rw [hothers] at h
      cases h
    | ok inner =>
      rw [hothers] at h
      cases h
      exact ih hothers hfinal

/-- The last flag of a cluster takes a value if it has a text or waits for one. -/
theorem takesValue_of_final {flag last : Flag} {isLong : Bool} {attached : Option (List Char)}
    {found : Cluster} {text : Option String} (h : clusterOf flag isLong attached = .ok found)
    (hfinal : found.final = some (last, text)) : last.takesValue = true := by
  cases attached with
  | none =>
    cases h
    exact takesValue_of_final_single hfinal
  | some attached =>
    unfold clusterOf at h
    dsimp only at h
    split at h
    · cases h
    · exact takesValue_of_final_cluster h hfinal

/-- A cluster without a text for its last flag changes no value. -/
theorem value?_of_takeCluster_none {cluster : Cluster}
    (h : takeCluster options cluster none = .ok taken) : taken.value? = options.value? := by
  rw [takeCluster, bind_eq_ok_iff] at h
  obtain ⟨next, hflags, h⟩ := h
  rw [← value?_of_takeFlags hflags]
  cases hfinal : cluster.final with
  | none =>
    rw [hfinal] at h
    cases h
    rfl
  | some final =>
    rw [hfinal] at h
    cases h
    rfl

/-- A cluster with a text for its last flag changes the value of this flag. -/
theorem value?_of_takeCluster_some {cluster : Cluster} {flag : Flag} {attached : Option String}
    {text : String} (hfinal : cluster.final = some (flag, attached))
    (hflag : flag.takesValue = true) (h : takeCluster options cluster (some text) = .ok taken)
    (other : Flag) :
    taken.value? other =
      if flag = other then (valueOf flag text).toOption else options.value? other := by
  rw [takeCluster, bind_eq_ok_iff] at h
  obtain ⟨next, hflags, h⟩ := h
  rw [hfinal] at h
  rw [value?_of_takeValue hflag h, value?_of_takeFlags hflags]

/-! ## Arguments -/

section Texts

variable {flag : Flag} {isLong : Bool} {attached : Option (List Char)} {found : Cluster}
  {last : Flag} {text : String}

/-- A text given to a flag stands in front of those that it is given behind it. -/
theorem textsFor_of_given_cons {arguments rest : List Argument}
    (h : given arguments = (last, text) :: given rest) (other : Flag) :
    textsFor other arguments = (if last = other then [text] else []) ++ textsFor other rest := by
  rw [textsFor, h, textsFor, List.filter_cons]
  by_cases heq : last = other
  · simp [heq]
  · simp [heq]

theorem finalOf_of_ok (h : clusterOf flag isLong attached = .ok found) :
    finalOf flag isLong attached = found.final := by
  rw [finalOf, h]

theorem given_attached (h : clusterOf flag isLong attached = .ok found)
    (hfinal : found.final = some (last, some text)) (rest : List Argument) :
    given (.flag flag isLong attached :: rest) = (last, text) :: given rest := by
  rw [given.eq_def]
  dsimp only
  rw [finalOf_of_ok h, hfinal]

theorem given_operand (h : clusterOf flag isLong attached = .ok found)
    (hfinal : found.final = some (last, none)) (rest : List Argument) :
    given (.flag flag isLong attached :: .operand text :: rest) = (last, text) :: given rest := by
  rw [given.eq_def]
  dsimp only
  rw [finalOf_of_ok h, hfinal]

theorem given_nothing (h : clusterOf flag isLong attached = .ok found)
    (hfinal : found.final = none) (rest : List Argument) :
    given (.flag flag isLong attached :: rest) = given rest := by
  rw [given.eq_def]
  dsimp only
  rw [finalOf_of_ok h, hfinal]

end Texts

/-- A text that a flag was given counts as long as there is none behind it. -/
theorem lastValue?_append (flag last : Flag) (start : Option Value) (text : String)
    (texts : List String) :
    lastValue? flag start ((if last = flag then [text] else []) ++ texts) =
      lastValue? flag (if last = flag then (valueOf last text).toOption else start) texts := by
  split
  · rename_i h
    rw [List.singleton_append, lastValue?_cons, h]
  · rfl

/-- What holds of options that were taken from arguments: they hold the values of the texts that
were given last, and every text that was given has a value. -/
structure TakenFrom (options : Options) (arguments : List Argument) (taken : Options) : Prop where
  values : ∀ flag,
    taken.value? flag = lastValue? flag (options.value? flag) (textsFor flag arguments)
  valid : ∀ use ∈ given arguments, ∃ value, valueOf use.1 use.2 = .ok value

/-- Taking the text that a flag is given first, and then the rest. -/
theorem TakenFrom.cons {arguments rest : List Argument} {next : Options} {found : Cluster}
    {last : Flag} {attached : Option String} {text : String}
    (hgiven : given arguments = (last, text) :: given rest)
    (hfinal : found.final = some (last, attached)) (hlast : last.takesValue = true)
    (hnext : takeCluster options found (some text) = .ok next) (h : TakenFrom next rest taken) :
    TakenFrom options arguments taken where
  values flag := by
    rw [h.values, value?_of_takeCluster_some hfinal hlast hnext, textsFor_of_given_cons hgiven,
      lastValue?_append]
  valid use huse := by
    rw [hgiven, List.mem_cons] at huse
    rcases huse with rfl | huse
    · obtain ⟨middle, -, hvalue⟩ := bind_eq_ok_iff.mp hnext
      rw [hfinal] at hvalue
      obtain ⟨value, hvalue, -⟩ := bind_eq_ok_iff.mp hvalue
      exact ⟨value, hvalue⟩
    · exact h.valid use huse

/-- Arguments that give no text to any flag in front of others. -/
theorem TakenFrom.of_given_eq {arguments rest : List Argument} {next : Options}
    (hgiven : given arguments = given rest) (hnext : next.value? = options.value?)
    (h : TakenFrom next rest taken) : TakenFrom options arguments taken where
  values flag := by
    rw [h.values, hnext, textsFor, textsFor, hgiven]
  valid := hgiven ▸ h.valid

/-- **Options hold the values of the texts that were given last.** -/
theorem takenFrom_of_take {arguments : List Argument} {extras : List String}
    (h : take options arguments = .ok (taken, extras)) : TakenFrom options arguments taken := by
  fun_induction take options arguments generalizing extras
  case case1 options =>
    cases h
    exact ⟨fun _ => rfl, nofun⟩
  -- what is no flag gives nothing to any
  case case2 ih | case3 ih | case4 ih =>
    obtain ⟨⟨_, _⟩, hrest, h⟩ := bind_eq_ok_iff.mp h
    cases h
    exact (ih hrest).of_given_eq (by rfl) rfl
  case case5 | case7 => cases h
  case case6 options first isLong attached found hfound last text rest hfinal ih =>
    obtain ⟨next, hnext, hrest⟩ := bind_eq_ok_iff.mp h
    exact (ih next hrest).cons (given_operand hfound hfinal rest) hfinal
      (takesValue_of_final hfound hfinal) hnext
  case case8 options first isLong attached found hfound last text rest hfinal ih =>
    obtain ⟨next, hnext, hrest⟩ := bind_eq_ok_iff.mp h
    exact (ih next hrest).cons (given_attached hfound hfinal rest) hfinal
      (takesValue_of_final hfound hfinal) hnext
  case case9 options first isLong attached found hfound rest hfinal ih =>
    obtain ⟨next, hnext, hrest⟩ := bind_eq_ok_iff.mp h
    exact (ih next hrest).of_given_eq (given_nothing hfound hfinal rest)
      (value?_of_takeCluster_none hnext)

theorem takenFrom_of_parse {texts : List String} (h : parse texts = .ok options) :
    ∃ arguments, Argument.ofTexts texts = .ok arguments ∧
      TakenFrom .defaults arguments options := by
  unfold parse at h
  split at h
  · cases h
  · rename_i arguments harguments
    obtain ⟨⟨taken, extras⟩, htake, h⟩ := bind_eq_ok_iff.mp h
    cases extras with
    | nil =>
      cases h
      exact ⟨arguments, harguments, takenFrom_of_take htake⟩
    | cons extra extras => cases h

/-- The texts that a flag is given have values. -/
theorem TakenFrom.valueOf_eq_ok {arguments : List Argument}
    (h : TakenFrom options arguments taken) {flag : Flag} {text : String}
    (htext : text ∈ textsFor flag arguments) : ∃ value, valueOf flag text = .ok value :=
  h.valid (flag, text) (by simpa [textsFor] using htext)

/-- A flag that holds nothing without arguments holds a value just if it is given one, and then the
last one. -/
theorem TakenFrom.value?_eq_some_iff {arguments : List Argument}
    (h : TakenFrom options arguments taken) {flag : Flag} (hflag : options.value? flag = none)
    {value : Value} :
    taken.value? flag = some value ↔
      ∃ text, (textsFor flag arguments).getLast? = some text ∧ valueOf flag text = .ok value := by
  rw [h.values, hflag, lastValue?]
  cases hlast : (textsFor flag arguments).getLast? with
  | none => simp
  | some text =>
    obtain ⟨valid, hvalid⟩ := h.valueOf_eq_ok (List.mem_of_getLast? hlast)
    simp [hvalid, Except.toOption]

end CommandLine
end SchemaTypes
