import Mathlib
import SchemaTypes.Proofs.Declaration.Sites
import SchemaTypes.Proofs.Generation.Output

/-!
# Which definitions are kept

A definition may get lost: it gives way to a later one of the same kind and name, and two that are
written under one name cannot be told apart.

* `Settings.emittedName`: the name under which a site is written.
* `Definition`: an enumeration or type that is written; `Outline.definitions`: all of them.
* `Definition.Defines`: it has the name of a site, and its values or keys.
* **`all_defined_iff`**: when every site has its one definition.
-/

namespace SchemaTypes

/-! ## What is written -/

/-- The name under which what has a label is written: a type that a class extends is a base. -/
def Settings.emittedName (s : Settings) : Bool × Text → Text
  | (true, name) => name
  | (false, name) => if s.index.isExtended name then baseName name else name

/-- An enumeration or a type that is written. -/
inductive Definition where
  | enum (e : EnumDeclaration)
  | type (t : TypeDeclaration)

namespace Definition

/-- The site of a definition. -/
def site : Definition → Site
  | enum e => e.site
  | type t => t.site

/-- The name under which a definition is written. -/
def name (s : Settings) (w : Definition) : Text :=
  s.emittedName w.site.label

/-- The lines of a definition: the block under its name, and the class that extends it. -/
def lines (s : Settings) : Definition → List Text
  | enum e => enumBlock e
  | type t =>
    typeBlock (s.styleOf t.name) s.readOnlyKeywords (s.emittedName (false, t.name)) t ++
      (s.index.extension? t.name).toList.flatMap fun c => [c.code, []]

/-- The definition is that of a site: of the same kind, with its name and its values or keys. -/
def Defines : Definition → Site → Prop
  | enum e, .enum name values =>
    e.name = name ∧ ∀ v, v ∈ e.members.map EnumMember.value ↔ v ∈ values
  | type t, .type name keys => t.name = name ∧ t.properties.map Property.key = keys
  | _, _ => False

theorem lines_type (s : Settings) (t : TypeDeclaration) :
    (type t).lines s = typeLines s s.index t := by
  unfold lines typeLines Settings.emittedName ExtensionIndex.isExtended
  rw [s.template_eq_styleOf]
  dsimp only
  cases s.index.extension? t.name with
  | none => exact List.append_nil _
  | some c => rfl

theorem defines_of_site_eq {w : Definition} {p : Site} (h : w.site = p.sorted) : w.Defines p := by
  cases w with
  | enum e =>
    cases p with
    | enum name values =>
      obtain ⟨hname, hvalues⟩ := Site.enum.inj h
      refine ⟨hname, ?_⟩
      intro v
      rw [hvalues, mem_sortedDistinct]
    | type name keys => exact absurd h nofun
  | type t =>
    cases p with
    | enum name values => exact absurd h nofun
    | type name keys => exact Site.type.inj h

end Definition

namespace Outline

/-- The definitions of a document, in order. -/
def definitions (o : Outline) : List Definition :=
  o.declarations.enums.values.map .enum ++ o.types.map .type

theorem body_eq_definitions (s : Settings) (o : Outline) :
    body s s.index o =
      Text.trimEnd
        (unlines (o.definitions.flatMap (Definition.lines s) ++ remainderLines s.index)) := by
  unfold body definitions
  have htypes : (fun t => (Definition.type t).lines s) = typeLines s s.index := by
    funext t
    exact Definition.lines_type s t
  rw [List.flatMap_append, List.flatMap_map, List.flatMap_map, htypes]
  rfl

variable {o : Outline}

theorem enum_mem_definitions_iff (h : o.declarations.Filed) {e : EnumDeclaration} {name : Text} :
    (.enum e ∈ o.definitions ∧ e.name = name) ↔
      Table.get? o.declarations.enums name = some e := by
  have hvalues : .enum e ∈ o.definitions ↔ e ∈ o.declarations.enums.values := by
    simp [definitions]
  rw [hvalues]
  exact Table.mem_values_iff h.enums h.enumName

/-- **What is written is what is declared.** -/
theorem perm_map_site_definitions (h : o.declarations.Filed) :
    (o.definitions.map Definition.site).Perm o.declarations.sites := by
  unfold definitions Declarations.sites
  rw [List.map_append, List.map_map, List.map_map]
  exact ((perm_types h).map TypeDeclaration.site).append_left _

end Outline

/-! ## Definitions -/

theorem filter_eq_singleton {α : Type} {f : α → Text} {l : List α} (h : (l.map f).Nodup) {a : α}
    (ha : a ∈ l) : l.filter (fun b => f b = f a) = [a] := by
  induction l with
  | nil => exact absurd ha List.not_mem_nil
  | cons b l ih =>
    rw [List.map_cons, List.nodup_cons] at h
    rcases List.mem_cons.mp ha with rfl | ha
    · rw [List.filter_cons_of_pos (by simp), List.filter_eq_nil_iff.mpr]
      intro c hc hname
      exact h.1 (of_decide_eq_true hname ▸ List.mem_map_of_mem hc)
    · have hne : f b ≠ f a := fun hname => h.1 (hname ▸ List.mem_map_of_mem ha)
      rw [List.filter_cons_of_neg (by simpa using hne)]
      exact ih h.2 ha

theorem hasProperties_of_ofSchema {dates : DateType} {name : Text} {s : Schema}
    (h : (Declarations.ofSchema dates name s).types.isEmpty = false) : s.hasProperties = true := by
  unfold Declarations.ofSchema at h
  unfold Schema.hasProperties
  split at h
  · exact absurd h nofun
  · exact absurd h nofun
  · next members hne hs =>
    rw [hs]
    cases members with
    | nil => exact absurd rfl hne
    | cons m members => rfl

section Definitions

variable {s : Settings} {o : Outline} {sites ps : List Site}

theorem name_mem_of_mem_definitions (hfiled : o.declarations.Filed)
    (hadds : ({} : Declarations).Adds ps o.declarations)
    (hps : ps.Perm (sites.map Site.sorted)) {w : Definition} (hw : w ∈ o.definitions) :
    w.name s ∈ sites.map fun p => s.emittedName p.label := by
  have hsite : w.site ∈ o.declarations.sites :=
    (Outline.perm_map_site_definitions hfiled).subset (List.mem_map_of_mem hw)
  obtain ⟨p, hp, hlabel⟩ := List.mem_map.mp (hadds.label_mem w.site hsite)
  rw [show ({} : Declarations).sites = [] from rfl, List.append_nil] at hp
  obtain ⟨q, hq, rfl⟩ := List.mem_map.mp (hps.subset hp)
  refine List.mem_map.mpr ⟨q, hq, ?_⟩
  unfold Definition.name
  rw [← hlabel, Site.label_sorted]

/-- **If the sites are written under different names**, all are written. -/
theorem perm_definitions_of_nodup (hfiled : o.declarations.Filed)
    (hadds : ({} : Declarations).Adds ps o.declarations)
    (hps : ps.Perm (sites.map Site.sorted))
    (hn : (sites.map fun p => s.emittedName p.label).Nodup) :
    (o.definitions.map Definition.site).Perm (sites.map Site.sorted) := by
  have hlabels : (ps.map Site.label).Nodup := by
    have hmap : ((sites.map Site.sorted).map Site.label) = sites.map Site.label := by
      rw [List.map_map]
      exact List.map_congr_left fun p _ => p.label_sorted
    rw [(hps.map Site.label).nodup_iff, hmap]
    refine List.Nodup.of_map s.emittedName ?_
    rw [List.map_map]
    exact hn
  have hsites : o.declarations.sites.Perm (ps ++ []) :=
    hadds.perm_sites .empty (by simpa [Declarations.sites, Table.values] using hlabels)
  rw [List.append_nil] at hsites
  exact ((Outline.perm_map_site_definitions hfiled).trans hsites).trans hps

/-- As many definitions as sites under different names: then the names of the sites differ. -/
theorem nodup_sites_of_definitions (hfiled : o.declarations.Filed)
    (hadds : ({} : Declarations).Adds ps o.declarations)
    (hps : ps.Perm (sites.map Site.sorted))
    (hnames : (o.definitions.map (Definition.name s)).Nodup)
    (hlength : o.definitions.length = sites.length) :
    (sites.map fun p => s.emittedName p.label).Nodup := by
  have hsub : o.definitions.map (Definition.name s) ⊆
      sites.map fun p => s.emittedName p.label := by
    intro n hn
    obtain ⟨w, hw, rfl⟩ := List.mem_map.mp hn
    exact name_mem_of_mem_definitions hfiled hadds hps hw
  -- a list without repetitions fills one of its length that it is part of
  have hperm : (o.definitions.map (Definition.name s)).Perm
      (sites.map fun p => s.emittedName p.label) := by
    refine (hnames.subperm hsub).perm_of_length_le ?_
    rw [List.length_map, List.length_map]
    exact Nat.le_of_eq hlength.symm
  exact hperm.nodup_iff.mp hnames

theorem nodup_definitions (hperm : (o.definitions.map Definition.site).Perm (sites.map Site.sorted))
    (hn : (sites.map fun p => s.emittedName p.label).Nodup) :
    (o.definitions.map (Definition.name s)).Nodup := by
  have hmap : (o.definitions.map Definition.site).map (fun p => s.emittedName p.label) =
      o.definitions.map (Definition.name s) := by
    rw [List.map_map]
    rfl
  have hsorted : (sites.map Site.sorted).map (fun p => s.emittedName p.label) =
      sites.map fun p => s.emittedName p.label := by
    rw [List.map_map]
    exact List.map_congr_left fun p _ => congrArg s.emittedName p.label_sorted
  rw [← hmap, (hperm.map _).nodup_iff, hsorted]
  exact hn

/-- Every site has its one definition if all are written under different names. -/
theorem exists_definition
    (hperm : (o.definitions.map Definition.site).Perm (sites.map Site.sorted))
    (hnames : (o.definitions.map (Definition.name s)).Nodup) {p : Site} (hp : p ∈ sites) :
    ∃ w, o.definitions.filter (fun w => w.name s = s.emittedName p.label) = [w] ∧
      w.Defines p := by
  have hsite : p.sorted ∈ o.definitions.map Definition.site :=
    hperm.mem_iff.mpr (List.mem_map_of_mem hp)
  obtain ⟨w, hw, hsorted⟩ := List.mem_map.mp hsite
  have hname : w.name s = s.emittedName p.label := by
    unfold Definition.name
    rw [hsorted, Site.label_sorted]
  refine ⟨w, ?_, Definition.defines_of_site_eq hsorted⟩
  rw [← hname]
  exact filter_eq_singleton hnames hw

end Definitions

/-- **When no definition is lost**: a document has for every site exactly one definition under its
name, as many definitions as there are sites and no name twice, if and only if the names under
which the sites are written differ. -/
theorem all_defined_iff {s : Settings} {schema : Text} {sink : Sink}
    (hgen : (generate s schema sink).failure = none) :
    ∃ sch o, Schema.ofText schema = .ok sch ∧ Outline.ofText s.dateType schema = .ok o ∧
      (generate s schema sink).output = Text.utf8 (unlines (preambleLines s.index ++
        moduleLines s.moduleName (Text.trimEnd
          (unlines (o.definitions.flatMap (Definition.lines s) ++ remainderLines s.index))))) ∧
      (((∀ p ∈ sch.rootSites,
            ∃ w, o.definitions.filter (fun w => w.name s = s.emittedName p.label) = [w] ∧
              w.Defines p) ∧
          (o.definitions.map (Definition.name s)).Nodup ∧
          o.definitions.length = sch.rootSites.length) ↔
        (sch.rootSites.map fun p => s.emittedName p.label).Nodup) := by
  obtain ⟨o, ho, hout⟩ := output_of_failure_eq_none hgen
  have hfiled := Outline.filed_of_ofText ho
  obtain ⟨sch, hsch, _, ho', hne⟩ := Outline.exists_schema_of_ofText ho
  have hproperties : sch.hasProperties = true := by
    rw [ho'] at hne
    exact hasProperties_of_ofSchema hne
  obtain ⟨ps, hadds, hps⟩ := exists_adds_ofSchema s.dateType (rootName sch.title) hproperties
  have hdeclarations : o.declarations =
      Declarations.ofSchema s.dateType (rootName sch.title) sch := by
    rw [ho']
  rw [← hdeclarations] at hadds
  refine ⟨sch, o, hsch, ho, ?_, ?_⟩
  · rw [hout, documentText, document, Outline.body_eq_definitions]
  · unfold Schema.rootSites
    generalize sch.sites (rootName sch.title) = sites at hps ⊢
    constructor
    · rintro ⟨_, hnames, hlength⟩
      exact nodup_sites_of_definitions hfiled hadds hps hnames hlength
    · intro hn
      have hperm := perm_definitions_of_nodup hfiled hadds hps hn
      have hnames := nodup_definitions hperm hn
      have hlength := hperm.length_eq
      rw [List.length_map, List.length_map] at hlength
      exact ⟨fun p hp => exists_definition hperm hnames hp, hnames, hlength⟩

/-! ## Sites that are kept and one that is lost -/

/-- A type with an enumeration and another type below it. -/
def kennelSchema : Text :=
  ("\x7b\"type\":\"object\",\"title\":\"Kennel\",\"properties\":\x7b" : Text) ++
    "\"kind\":\x7b\"enum\":[\"dog\",\"cat\"]\x7d,\"owner\":\x7b\"type\":\"object\"," ++
    "\"properties\":\x7b\"n\":\x7b\"type\":\"string\"\x7d\x7d\x7d\x7d\x7d"

/-- A type with another of its name below it. -/
def nestedSchema : Text :=
  ("\x7b\"type\":\"object\",\"title\":\"Pet\",\"properties\":\x7b\"a\":\x7b" : Text) ++
    "\"type\":\"object\",\"title\":\"Pet\",\"properties\":\x7b\"x\":\x7b" ++
    "\"type\":\"string\"\x7d\x7d\x7d\x7d\x7d"

set_option maxRecDepth 100000 in
/-- All three have their definitions. -/
theorem kennel_defined :
    (generate {} kennelSchema {}).failure = none ∧
      ∃ sch o, Schema.ofText kennelSchema = .ok sch ∧ Outline.ofText .date kennelSchema = .ok o ∧
        sch.rootSites = [.type "Kennel" [("kind" : Text), ("owner" : Text)],
          .enum "Kind" [("dog" : Text), ("cat" : Text)], .type "Owner" [("n" : Text)]] ∧
        ∀ p ∈ sch.rootSites,
          ∃ w, o.definitions.filter (fun w => w.name {} = Settings.emittedName {} p.label) = [w] ∧
            w.Defines p := by
  have hroot : (Outline.ofText .date kennelSchema).map Outline.root = .ok ("Kennel" : Text) := by
    cbv
  have hsites : (Schema.ofText kennelSchema).map Schema.rootSites =
      .ok [.type "Kennel" [("kind" : Text), ("owner" : Text)],
        .enum "Kind" [("dog" : Text), ("cat" : Text)], .type "Owner" [("n" : Text)]] := by
    cbv
  have hnames : [Site.type "Kennel" [("kind" : Text), ("owner" : Text)],
      .enum "Kind" [("dog" : Text), ("cat" : Text)], .type "Owner" [("n" : Text)]].map
        (fun p => Settings.emittedName {} p.label) =
      ["Kennel".toList, "Kind".toList, "Owner".toList] := by
    cbv
  obtain ⟨o', ho', _⟩ := exists_of_map_eq_ok hroot
  have hgen : (generate {} kennelSchema {}).failure = none := failure_generate ho' rfl
  obtain ⟨sch, o, hsch, ho, _, hiff⟩ := all_defined_iff hgen
  rw [hsch] at hsites
  have hsites' := Except.ok.inj hsites
  refine ⟨hgen, sch, o, hsch, ho, hsites', (hiff.mpr ?_).1⟩
  rw [hsites', hnames]
  decide

set_option maxRecDepth 100000 in
/-- The type below has no definition. -/
theorem nested_lost :
    (generate {} nestedSchema {}).failure = none ∧
      ∃ sch o, Schema.ofText nestedSchema = .ok sch ∧ Outline.ofText .date nestedSchema = .ok o ∧
        sch.rootSites =
          [.type "Pet" [("a" : Text)], .type "Pet" [("x" : Text)]] ∧
        (∀ w ∈ o.definitions, ¬w.Defines (.type "Pet" [("x" : Text)])) ∧
        (generate {} nestedSchema {}).output =
          Text.utf8 (("// Generated by json-schema-ts. Do not edit manually.\n\n" : Text) ++
            "export interface Pet \x7b\n    a?: Pet;\n\x7d\n") := by
  have hsites : (Schema.ofText nestedSchema).map Schema.rootSites =
      .ok [.type "Pet" [("a" : Text)], .type "Pet" [("x" : Text)]] := by
    cbv
  have hdefined : (Outline.ofText .date nestedSchema).map (·.definitions.map Definition.site) =
      .ok [.type "Pet" [("a" : Text)]] := by
    cbv
  have hout : (generate {} nestedSchema {}).output =
      Text.utf8 (("// Generated by json-schema-ts. Do not edit manually.\n\n" : Text) ++
        "export interface Pet \x7b\n    a?: Pet;\n\x7d\n") := by
    cbv
  obtain ⟨sch, hsch, hsites'⟩ := exists_of_map_eq_ok hsites
  obtain ⟨o, ho, hdefined'⟩ := exists_of_map_eq_ok hdefined
  refine ⟨failure_generate ho rfl, sch, o, hsch, ho, hsites', ?_, hout⟩
  intro w hw hdefines
  have hsite : w.site ∈ [Site.type "Pet" [("a" : Text)]] := by
    rw [← hdefined']
    exact List.mem_map_of_mem hw
  cases w with
  | enum e => exact hdefines
  | type t =>
    have hkeys := (Site.type.inj (List.mem_singleton.mp hsite)).2
    rw [hdefines.2, Text.ofString_eq, Text.ofString_eq] at hkeys
    exact absurd hkeys (by decide)

end SchemaTypes
