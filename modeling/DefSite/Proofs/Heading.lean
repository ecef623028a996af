import Mathlib
import DefSite.Proofs.InPlace
import DefSite.Proofs.LineRange

/-!
# How rendered definitions begin

The source of a definition begins with a line for each decorator, in their order, and goes on with
one line that has the name, all parameters and what the definition returns (`source_opens`).
Decorators, defaults and annotations are written in place, however deep they nest, so none of them
reaches another line, and neither does a constant in them, whatever it holds.  The exception are
strings with line breaks that a formatted string writes verbatim; and a program in the body drops
all that was written before it (`source_spills`).
-/

namespace DefSite

/-! ## Lines of a text -/

/-- Lines that have ended, and what comes after them. -/
theorem splitOn_ended_append {ls : List (List Char)} (h : ∀ l ∈ ls, '\n' ∉ l) (rest : List Char) :
    (ls.flatMap (· ++ ['\n']) ++ rest).splitOn '\n' = ls ++ rest.splitOn '\n' := by
  induction ls with
  | nil => rfl
  | cons l ls ih =>
    obtain ⟨hl, hls⟩ := List.forall_mem_cons.mp h
    rw [List.flatMap_cons, List.append_assoc, List.append_assoc, List.singleton_append,
      List.splitOn_append_cons_self_of_not_mem hl, ih hls, List.cons_append]

/-- What has no line break in it stands on the first line. -/
theorem exists_splitOn_append {l : List Char} (h : '\n' ∉ l) (rest : List Char) :
    ∃ after more, (l ++ rest).splitOn '\n' = (l ++ after) :: more := by
  by_cases hrest : '\n' ∈ rest
  · obtain ⟨after, more, rfl, hafter⟩ := List.eq_append_cons_of_mem hrest
    refine ⟨after, more.splitOn '\n', ?_⟩
    rw [← List.append_assoc, List.splitOn_append_cons_self_of_not_mem]
    rw [List.mem_append, not_or]
    exact ⟨h, hafter⟩
  · refine ⟨rest, [], List.splitOn_eq_singleton ?_⟩
    rw [List.mem_append, not_or]
    exact ⟨h, hrest⟩

/-! ## The layout of a definition -/

namespace Render

open Layout

variable {P : Char → Prop}

theorem textFrom_word (started inForce : Bool) (s : String) (l : Layout) :
    textFrom started inForce (word s ++ l) = s.toList ++ textFrom true inForce l :=
  rfl

theorem textFrom_inPlace_append {l : Layout} (h : InPlace P l) (inForce : Bool) (rest : Layout) :
    textFrom true inForce (l ++ rest) = textFrom false false l ++ textFrom true inForce rest := by
  induction l with
  | nil => rfl
  | cons p l ih =>
    obtain ⟨hp, hl⟩ := consists_cons.mp h
    cases p with
    | text s => simp [textFrom, ih hl, textFrom_of_inPlace hl true]
    | raw cs => simp [textFrom, ih hl, textFrom_of_inPlace hl true]
    | _ => exact hp.elim

theorem textFrom_line (started inForce : Bool) (s : String) (l : Layout) :
    textFrom started inForce (line {} s ++ l) =
      (if started then ['\n'] else []) ++ (s.toList ++ textFrom true inForce l) := by
  cases started <;> simp [line, textFrom]

/-- Decorators, each on its line, and a line after them. -/
theorem textFrom_decorated {ds : List Layout} (h : ∀ d ∈ ds, InPlace P d) (started inForce : Bool)
    (s : String) (rest : Layout) :
    textFrom started inForce ((ds.map (line {} "@" ++ ·)).flatten ++ (line {} s ++ rest)) =
      (if started then ['\n'] else []) ++
        ((ds.map fun d => '@' :: textFrom false false d).flatMap (· ++ ['\n']) ++
          (s.toList ++ textFrom true inForce rest)) := by
  induction ds generalizing started with
  | nil => exact textFrom_line started inForce s rest
  | cons d ds ih =>
    obtain ⟨hd, hds⟩ := List.forall_mem_cons.mp h
    rw [List.map_cons, List.flatten_cons, List.append_assoc, List.append_assoc, textFrom_line,
      textFrom_inPlace_append hd, ih hds true]
    simp

end Render

/-- The word or words that a definition of a class begins with. -/
def Kind.opening : Kind → String
  | .asyncFunctionDef => "async def"
  | _ => "def"

namespace Render

open Layout Node

theorem decorators_eq_ok {n : Node} {m : Manner} {l : Layout}
    (h : decorators (fun c : n.Part => render c.1) m = .ok l) :
    ∃ ns ds, n.listed? .decorators = some ns ∧
      ns.mapM (render · m (.level .test)) = .ok ds ∧
      l = (ds.map (line m "@" ++ ·)).flatten := by
  obtain ⟨ps, hps, h⟩ := bind_eq_ok.mp h
  obtain ⟨lines, hlines, rfl⟩ := bind_pure_eq_ok.mp h
  obtain ⟨ds, hds, rfl⟩ := mapM_bind_pure_eq_ok.mp hlines
  refine ⟨ps.map (·.1), ds, listed?_of_readList hps, ?_, rfl⟩
  rw [List.mapM_map]
  exact hds

theorem optional_eq_ok {n : Node} {m : Manner} {before : Layout} {o : Option n.Part} {l : Layout}
    (h : Parts.optional (fun c : n.Part => render c.1) m before o = .ok l) :
    ∃ r, (o.map (·.1)).mapM (render · m (.level .test)) = .ok r ∧
      l = (r.map (before ++ ·)).getD [] := by
  cases o with
  | none =>
    cases h
    exact ⟨none, rfl, rfl⟩
  | some c =>
    obtain ⟨text, htext, rfl⟩ := bind_pure_eq_ok.mp h
    have hc : render c.1 m (.level .test) = .ok text := htext
    exact ⟨some text, by simp [hc], rfl⟩

theorem rule_of_isFunctionDef {n : Node} (hk : n.kind.isFunctionDef = true) (sub : Parts n)
    (m : Manner) (l : Level) : rule n sub m (.level l) = functionRule sub m n.kind.opening := by
  unfold rule
  rw [if_neg nofun]
  cases hkind : n.kind <;> first | rfl | (rw [hkind] at hk; cases hk)

/-- What a definition is rendered as: decorators, the line that it opens with, and the rest. -/
theorem render_eq_ok_of_isFunctionDef {n : Node} (hk : n.kind.isFunctionDef = true) {m : Manner}
    {level : Level} {l : Layout} (h : render n m (.level level) = .ok l) :
    ∃ ns ds name a params returns rest,
      n.listed? .decorators = some ns ∧ ns.mapM (render · m (.level .test)) = .ok ds ∧
      n.word? .name = some name ∧
      n.child? .args = some a ∧ render a m (.level .test) = .ok params ∧
      (n.child? .returns).mapM (render · m (.level .test)) = .ok returns ∧
      l = .freshLine :: ((ds.map (line m "@" ++ ·)).flatten ++
        (line m (n.kind.opening ++ " ") ++ (word name ++ (between "(" ")" params ++
          ((returns.map (word " -> " ++ ·)).getD [] ++ (word ":" ++ rest)))))) := by
  rw [render_eq, rule_of_isFunctionDef hk] at h
  obtain ⟨decorated, hdecorated, h⟩ := bind_eq_ok.mp h
  obtain ⟨name, hname, h⟩ := bind_eq_ok.mp h
  obtain ⟨a, ha, h⟩ := bind_eq_ok.mp h
  obtain ⟨params, hparams, h⟩ := bind_eq_ok.mp h
  obtain ⟨r, hr, h⟩ := bind_eq_ok.mp h
  obtain ⟨arrow, harrow, h⟩ := bind_eq_ok.mp h
  obtain ⟨comment, -, h⟩ := bind_eq_ok.mp h
  obtain ⟨body, -, hl⟩ := bind_pure_eq_ok.mp h
  obtain ⟨ns, ds, hns, hds, rfl⟩ := decorators_eq_ok hdecorated
  obtain ⟨returns, hreturns, rfl⟩ := optional_eq_ok harrow
  refine ⟨ns, ds, name, a.1, params, returns, comment ++ body, hns, hds, readWord_eq_ok.mp hname,
    child?_of_readChild ha, hparams, ?_, ?_⟩
  · rw [child?_of_optionalChild hr]
    exact hreturns
  · rw [← hl]
    simp only [List.cons_append, List.append_assoc]

end Render

/-! ## The lines that open a definition -/

/-- The line with the name of a definition, its parameters and what it returns. -/
def heading (k : Kind) (name params : String) (returns : Option String) : String :=
  k.opening ++ " " ++ name ++ "(" ++ params ++ ")" ++ (returns.map (" -> " ++ ·)).getD "" ++ ":"

/-- No decorator, parameter or annotation of the definition has a node that opens a line, and none
of the names in them, nor the name of the definition, has a line break, nor has what is written
verbatim in their formatted strings.  No program stands in the definition. -/
structure Node.PlainHeading (n : Node) : Prop where
  unbroken : n.Unbroken
  name : ∀ s, n.word? .name = some s → '\n' ∉ s.toList
  decorators : ∀ ns, n.listed? .decorators = some ns → ∀ d ∈ ns, d.WrittenInPlace (· ≠ '\n')
  params : ∀ a, n.child? .args = some a → a.WrittenInPlace (· ≠ '\n')
  returns : ∀ r, n.child? .returns = some r → r.WrittenInPlace (· ≠ '\n')

section heading

open Text Render Layout

variable {P : Char → Prop} {k : Kind} {name params : String} {returns : Option String}

theorem within_heading (hP : ∀ d, Printable d → P d) (hname : Within P name)
    (hparams : Within P params) (hreturns : ∀ r ∈ returns, Within P r) :
    Within P (heading k name params returns) := by
  have hopening : Within P k.opening := within_punctuation hP (by cases k <;> decide)
  have harrow : Within P ((returns.map (" -> " ++ ·)).getD "") := by
    cases returns with
    | none => exact within_punctuation hP (by decide)
    | some r =>
      have hr := hreturns r rfl
      simp (disch := decide) [within_punctuation hP, hr]
  simp (disch := decide) [heading, within_punctuation hP, hopening, hname, hparams, harrow]

/-- The first line after the decorators is the heading, with the comment that may follow it. -/
theorem textFrom_heading {params : Layout} {returns : Option Layout} (hparams : InPlace P params)
    (hreturns : ∀ r ∈ returns, InPlace P r) (rest : Layout) :
    (k.opening ++ " ").toList ++ textFrom true false (word name ++ (between "(" ")" params ++
        ((returns.map (word " -> " ++ ·)).getD [] ++ (word ":" ++ rest)))) =
      (heading k name params.toString (returns.map Layout.toString)).toList ++
        textFrom true false rest := by
  have harrow : ∀ l, textFrom true false ((returns.map (word " -> " ++ ·)).getD [] ++ l) =
      (((returns.map Layout.toString).map (" -> " ++ ·)).getD "").toList ++
        textFrom true false l := by
    intro l
    cases returns with
    | none => rfl
    | some r =>
      simp only [Option.map_some, Option.getD_some, List.append_assoc]
      rw [textFrom_word, textFrom_inPlace_append (hreturns r rfl)]
      simp [toString_of_inPlace (hreturns r rfl)]
  simp only [between, List.append_assoc]
  rw [textFrom_word, textFrom_word, textFrom_inPlace_append hparams, textFrom_word, harrow,
    textFrom_word]
  simp [heading, toString_of_inPlace hparams]

theorem textFrom_definition {ds : List Layout} (hds : ∀ d ∈ ds, InPlace P d) {params : Layout}
    (hparams : InPlace P params) {returns : Option Layout} (hreturns : ∀ r ∈ returns, InPlace P r)
    (rest : Layout) :
    textFrom false false (.freshLine :: ((ds.map (line {} "@" ++ ·)).flatten ++
        (line {} (k.opening ++ " ") ++ (word name ++ (between "(" ")" params ++
          ((returns.map (word " -> " ++ ·)).getD [] ++ (word ":" ++ rest))))))) =
      (ds.map fun d => '@' :: textFrom false false d).flatMap (· ++ ['\n']) ++
        ((heading k name params.toString (returns.map Layout.toString)).toList ++
          textFrom true false rest) := by
  rw [← textFrom_heading hparams hreturns]
  exact textFrom_decorated hds false false _ _

end heading

namespace Subject

open Text Render Layout

/-- **Definitions open on lines of their own.**  Unless a line break is written verbatim in its
heading or a program stands in it, the source of a definition begins with one line for each
decorator, in their order, with the decorator's source after an at sign.  The next line begins with
the definition's name, its parameters in full and what it returns. -/
theorem source_opens {s : Subject} {text : String} (hk : s.node.kind.isFunctionDef = true)
    (hplain : s.node.PlainHeading) (htext : s.source = .ok text) :
    ∃ name args decorators params returns after body,
      s.node.word? .name = some name ∧ s.node.child? .args = some args ∧
      s.decorators.mapM Node.source = .ok decorators ∧ args.source = .ok params ∧
      (s.node.child? .returns).mapM Node.source = .ok returns ∧
      text.toList.splitOn '\n' =
        decorators.map (fun d => ("@" ++ d).toList) ++
          ((heading s.node.kind name params returns).toList ++ after) :: body := by
  obtain ⟨l, hl, rfl⟩ := bind_pure_eq_ok.mp htext
  obtain ⟨ns, ds, name, a, params, returns, rest, hns, hds, hname, ha, hparams, hreturns, rfl⟩ :=
    render_eq_ok_of_isFunctionDef hk hl
  have hunbroken := SatisfiesM_Except_eq.mp (render_unbroken hplain.unbroken _ _) _ hl
  have hP : ∀ d, Printable d → d ≠ '\n' := by
    rintro d hd rfl
    exact absurd hd (by decide)
  have hplace : ∀ {n : Node}, n.WrittenInPlace (· ≠ '\n') →
      SatisfiesM (InPlace (· ≠ '\n')) (render n {} (.level .test)) := fun h =>
    render_inPlace hP h _ _ nofun
  have hdsPlace : ∀ d ∈ ds, InPlace (· ≠ '\n') d :=
    SatisfiesM_Except_eq.mp (satisfiesM_mapM fun d hd =>
      hplace (hplain.decorators ns hns d hd)) ds hds
  have hparamsPlace : InPlace (· ≠ '\n') params :=
    SatisfiesM_Except_eq.mp (hplace (hplain.params a ha)) params hparams
  have hreturnsPlace : ∀ r ∈ returns, InPlace (· ≠ '\n') r :=
    SatisfiesM_Except_eq.mp (satisfiesM_optionMapM fun r hr =>
      hplace (hplain.returns r hr)) returns hreturns
  have hheading : Within (· ≠ '\n')
      (heading s.node.kind name params.toString (returns.map Layout.toString)) := by
    refine within_heading hP ?_ (within_layout hparamsPlace) ?_
    · exact fun d hd heq => hplain.name name hname (heq ▸ hd)
    · intro text ht
      obtain ⟨r, hr, rfl⟩ := Option.map_eq_some_iff.mp ht
      exact within_layout (hreturnsPlace r hr)
  obtain ⟨after, body, hsplit⟩ := exists_splitOn_append (fun hd => hheading _ hd rfl)
    (textFrom true false rest)
  refine ⟨name, a, ds.map Layout.toString, params.toString, returns.map Layout.toString, after,
    body, hname, ha, ?_, bind_pure_eq_ok.mpr ⟨params, hparams, rfl⟩,
    optionMapM_bind_pure_eq_ok.mpr ⟨returns, hreturns, rfl⟩, ?_⟩
  · rw [decorators_eq_of_listed hns]
    exact mapM_bind_pure_eq_ok.mpr ⟨ds, hds, rfl⟩
  · have hended : ∀ t ∈ ds.map fun d => '@' :: textFrom false false d, '\n' ∉ t := by
      intro t ht hnewline
      obtain ⟨d, hd, rfl⟩ := List.mem_map.mp ht
      rcases List.mem_cons.mp hnewline with h | h
      · cases h
      · exact forall_mem_textFrom (hdsPlace d hd) false false _ h rfl
    have hsources : ds.map (fun d => '@' :: textFrom false false d) =
        (ds.map Layout.toString).map fun d => ("@" ++ d).toList := by
      rw [List.map_map]
      refine List.map_congr_left fun d hd => ?_
      simp [toString_of_inPlace (hdsPlace d hd)]
    rw [toString_of_unbroken hunbroken, String.toList_ofList,
      textFrom_definition hdsPlace hparamsPlace hreturnsPlace, splitOn_ended_append hended, hsplit,
      hsources]

section quoted

/-- An asynchronous function with line breaks and a carriage return in the constants of its
decorator, of a default, of a formatted annotation and of what it returns. -/
def quotingFunction : Node :=
  let constant (l : Literal) := Node.mk .constant none none [(.value, .literal l)]
  let parameters (args defaults : List (Option Node)) := Node.mk .arguments none none
    [(.posonlyargs, .slots []), (.args, .slots args), (.kwonlyargs, .slots []),
      (.kwDefaults, .slots []), (.defaults, .slots defaults)]
  let default := Node.mk .lambda none none
    [(.args, .node (parameters [] [])), (.body, .node (constant (.text [0x61, 0x0a, 0x62])))]
  let label := Node.mk .joinedStr none none
    [(.values, .slots [some (.mk .formattedValue none none
        [(.value, .node (.mk .name none none [(.id, .word "T")])), (.conversion, .number 114)]),
      some (constant (.text [0x0a]))])]
  let x := Node.mk .arg none none [(.arg, .word "x"), (.annot, .node label)]
  let mark := Node.mk .call none none
    [(.func, .node (.mk .name none none [(.id, .word "mark")])),
      (.args, .slots [some (constant (.text [0x0d, 0x0a]))]), (.keywords, .slots [])]
  .mk .asyncFunctionDef (some 2) (some 3)
    [(.name, .word "f"),
      (.args, .node (parameters [some x] [some default])),
      (.body, .slots [some (.mk .pass none none [])]), (.decorators, .slots [some mark]),
      (.returns, .node (constant (.bytes [0x0a])))]

theorem plainHeading_quotingFunction : quotingFunction.PlainHeading where
  unbroken := Node.unbroken_iff_all.mpr (by cbv)
  name s hs := by
    cases hs
    decide
  decorators ns hns d hd := by
    cases hns
    cases List.mem_singleton.mp hd
    exact Node.writtenInPlace_iff_all.mpr (by cbv)
  params a ha := by
    cases ha
    exact Node.writtenInPlace_iff_all.mpr (by cbv)
  returns r hr := by
    cases hr
    exact Node.writtenInPlace_iff_all.mpr (by cbv)

theorem source_opens_quoting : quotingFunction.PlainHeading ∧
    ∃ (s : Subject) (text : String) (after : List Char) (body : List (List Char)),
      s.node = quotingFunction ∧ s.source = .ok text ∧
      text.toList.splitOn '\n' = "@mark('\\r\\n')".toList ::
        ("async def f(x: f'\x7bT!r\x7d\\n'=lambda: 'a\\nb') -> b'\\n':".toList ++ after) ::
          body := by
  let s : Subject := { (default : Subject) with node := quotingFunction }
  obtain ⟨text, htext⟩ : ∃ text, s.source = .ok text := ⟨_, by cbv⟩
  obtain ⟨name, args, decorators, params, returns, after, body, hname, hargs, hdecorators,
    hparams, hreturns, hsplit⟩ := source_opens rfl plainHeading_quotingFunction htext
  have hdecorators' : s.decorators.mapM Node.source = .ok ["mark('\\r\\n')"] := by cbv
  cases hdecorators'.symm.trans hdecorators
  have hparams' : args.source = .ok "x: f'\x7bT!r\x7d\\n'=lambda: 'a\\nb'" := by
    cases hargs
    cbv
  cases hparams'.symm.trans hparams
  have hreturns' : (s.node.child? .returns).mapM Node.source = .ok (some "b'\\n'") := by cbv
  cases hreturns'.symm.trans hreturns
  cases hname
  exact ⟨plainHeading_quotingFunction, s, text, after, body, rfl, htext, hsplit⟩

/-- A function of one parameter. -/
def functionOf (default statement : Node) : Node :=
  let parameters := Node.mk .arguments none none
    [(.posonlyargs, .slots []), (.args, .slots [some (.mk .arg none none [(.arg, .word "x")])]),
      (.kwonlyargs, .slots []), (.kwDefaults, .slots []), (.defaults, .slots [some default])]
  .mk .functionDef (some 1) (some 3)
    [(.name, .word "f"), (.args, .node parameters), (.body, .slots [some statement]),
      (.decorators, .slots [])]

/-- The default is a formatted string, with a line break in the string that is formatted. -/
def spillingFunction : Node :=
  let text := Node.mk .constant none none [(.value, .literal (.text [0x61, 0x0a, 0x62]))]
  functionOf
    (.mk .joinedStr none none [(.values, .slots [some (.mk .formattedValue none none
      [(.value, .node text), (.conversion, .number (-1))])])])
    (.mk .pass none none [])

/-- The body holds a program. -/
def interruptedFunction : Node :=
  functionOf (.mk .constant none none [(.value, .literal (.int 0))])
    (.mk .interactive none none [(.body, .slots [some (.mk .pass none none [])])])

/-- A definition that holds no line break in a name, and no statement among its parameters. -/
def HeadingInLine (s : Subject) (args : Node) : Prop :=
  s.node.child? .args = some args ∧ s.decorators = [] ∧ s.node.child? .returns = none ∧
    (∀ p ∈ args.preorder, p.2.kind.opensLine = false) ∧
    ∀ p ∈ s.node.preorder, ∀ f ∈ Field.identifiers, ∀ x ∈ p.2.spelled f, '\n' ∉ x.toList

theorem headingInLine_of_all {s : Subject} {args : Node} (hargs : s.node.child? .args = some args)
    (hdecorators : s.decorators = []) (hreturns : s.node.child? .returns = none)
    (hlines : (args.preorder.all fun p => !p.2.kind.opensLine) = true)
    (hnames : (s.node.preorder.all fun p => Field.identifiers.all fun f =>
      (p.2.spelled f).all fun x => !x.toList.contains '\n') = true) : s.HeadingInLine args :=
  ⟨hargs, hdecorators, hreturns, by simpa using hlines, by simpa using hnames⟩

/-- Backslashes are avoided in what is formatted, so there a string with a line break is written as
it is, and the parameters spill onto the next line.  A program drops what was written before it, the
whole heading with it. -/
theorem source_spills :
    (∃ (s : Subject) (args : Node) (text params : String),
      s.node = spillingFunction ∧ s.HeadingInLine args ∧
      s.source = .ok text ∧ args.source = .ok params ∧
      text.toList.splitOn '\n' = ["def f(x=f'''\x7b\"\"\"a".toList,
        "b\"\"\"\x7d'''):".toList, "    pass".toList] ∧
      ∀ line ∈ text.toList.splitOn '\n', ¬ params.toList <:+: line) ∧
    ∃ (s : Subject) (args : Node),
      s.node = interruptedFunction ∧ s.HeadingInLine args ∧ s.source = .ok "    pass" := by
  constructor
  · let s : Subject := { (default : Subject) with node := spillingFunction }
    obtain ⟨args, hargs⟩ : ∃ args, s.node.child? .args = some args := ⟨_, rfl⟩
    have hlines : (args.preorder.all fun p => !p.2.kind.opensLine) = true := by
      cases hargs
      cbv
    have htext : s.source =
        .ok "def f(x=f'''\x7b\"\"\"a\nb\"\"\"\x7d'''):\n    pass" := by cbv
    have hparams : args.source = .ok "x=f'''\x7b\"\"\"a\nb\"\"\"\x7d'''" := by
      cases hargs
      cbv
    exact ⟨s, args, _, _, rfl, headingInLine_of_all hargs rfl rfl hlines (by cbv), htext,
      hparams, by decide, by decide⟩
  · let s : Subject := { (default : Subject) with node := interruptedFunction }
    obtain ⟨args, hargs⟩ : ∃ args, s.node.child? .args = some args := ⟨_, rfl⟩
    have hlines : (args.preorder.all fun p => !p.2.kind.opensLine) = true := by
      cases hargs
      cbv
    exact ⟨s, args, rfl, headingInLine_of_all hargs rfl rfl hlines (by cbv), by cbv⟩

end quoted

end Subject

end DefSite
