import CurlScribe.Maven.Pom
import CurlScribe.Proofs.Maven.Markup
import CurlScribe.Proofs.Text.Trim

/-! Build files read as markup: which tags they have, and that the texts of the project stand in
them as they were given. -/
namespace CurlScribe.Maven

open Markup (Content Encloses IsTagName Reads)

variable {c : PomConfig} {d : Dependency} {e : Extras} {ls ms : List String} {depth : Nat}
  {name text s t : String}

/-! Escaped texts. -/

theorem resolve?_escapeXmlChar (c : Char) (cs : List Char) :
    Markup.resolve? (escapeXmlChar c ++ cs) = (Markup.resolve? cs).map (c :: ·) := by
  unfold escapeXmlChar
  split
  case h_6 hamp _ _ _ _ => exact Markup.resolve?_plain hamp cs
  all_goals rfl

/-- Resolving undoes escaping. -/
theorem resolve?_escapeXml (s : String) : Markup.resolve? (escapeXml s).toList = some s.toList := by
  rw [escapeXml, String.toList_ofList]
  induction s.toList with
  | nil => rfl
  | cons c cs ih => rw [List.flatMap_cons, resolve?_escapeXmlChar, ih, Option.map_some]

theorem not_mem_escapeXmlChar {m : Char} (h : m ∈ Markup.marks) (c : Char) :
    m ∉ escapeXmlChar c := by
  simp only [Markup.marks, List.mem_cons, List.not_mem_nil, or_false] at h
  unfold escapeXmlChar
  split
  case h_6 hamp hless hgreater hquote hapostrophe =>
    intro hm
    obtain rfl := List.mem_singleton.mp hm
    rcases h with rfl | rfl | rfl | rfl
    · exact hless rfl
    · exact hgreater rfl
    · exact hquote rfl
    · exact hapostrophe rfl
  all_goals rcases h with rfl | rfl | rfl | rfl <;> decide

theorem not_mem_escapeXml {m : Char} (h : m ∈ Markup.marks) (s : String) :
    m ∉ (escapeXml s).toList := by
  rw [escapeXml, String.toList_ofList, List.mem_flatMap]
  rintro ⟨c, -, hc⟩
  exact not_mem_escapeXmlChar h c hc

/-! Texts and lines. -/

/-- The elements in which a project says what it is. -/
def statedNames : List String := ["groupId", "artifactId", "version", "name", "description"]

/-- The text is read with these tags. Outside its elements it is blank, and of the elements that are
in no other one, those with the stated names have these texts. -/
structure Shows (k : Content) (tags : List String) (said : List (String × String)) : Prop where
  blank : k.text.all Text.isBlank = true
  tags : k.tags = tags
  said : ∀ name ∈ statedNames,
    k.texts [] name = (said.filter fun e => e.1 = name).map fun e => e.2.toList

/-- Wherever the text stands, it is read as such a content. -/
def Writes (s : String) (tags : List String) (said : List (String × String)) : Prop :=
  ∃ k, Reads s k ∧ Shows k tags said

variable {tags tags' : List String} {said said' : List (String × String)}

theorem Writes.append (hs : Writes s tags said) (ht : Writes t tags' said') :
    Writes (s ++ t) (tags ++ tags') (said ++ said') := by
  obtain ⟨k, hk, hkblank, hktags, hksaid⟩ := hs
  obtain ⟨l, hl, hlblank, hltags, hlsaid⟩ := ht
  refine ⟨k ++ l, hk.append hl, ?_, ?_, fun name hn => ?_⟩
  · simp [Content.append_def, hkblank, hlblank]
  · rw [Content.tags_append, hktags, hltags]
  · rw [Content.texts_append, hksaid name hn, hlsaid name hn, List.filter_append, List.map_append]

theorem writes_blank (h : s.toList.all Text.isBlank = true) : Writes s [] [] := by
  have hplain : '<' ∉ s.toList := fun hmem =>
    absurd (List.all_eq_true.mp h _ hmem) (by decide)
  exact ⟨_, Markup.reads_text hplain, h, rfl, fun _ _ => rfl⟩

/-- The tags of an element, around those of what stands in it. -/
def around (name : String) (tags : List String) : List String := name :: tags ++ ["/" ++ name]

theorem Writes.enclosed (hs : Writes s tags said) (h : IsTagName name)
    (hn : name ∉ statedNames) :
    Writes ("<" ++ name ++ ">" ++ s ++ ("<" ++ ("/" ++ name) ++ ">")) (around name tags) [] := by
  obtain ⟨k, hk, -, htags, -⟩ := hs
  refine ⟨_, hk.enclosed h.encloses, rfl, ?_, fun other hother => ?_⟩
  · rw [Content.tags_enclosed, htags, around]
  · rw [Content.texts_enclosed, if_neg (by rintro rfl; exact hn hother)]
    rfl

/-- What stands in front of a line. -/
def indent (depth : Nat) : String := String.ofList (List.replicate (4 * depth) ' ')

theorem blank_indent (depth : Nat) : (indent depth).toList.all Text.isBlank = true := by
  simp [indent, Text.isBlank]

theorem blank_lineEnd : "\n".toList.all Text.isBlank = true := by decide

theorem Writes.line (hs : Writes s tags said) (depth : Nat) :
    Writes (line depth s) tags said := by
  have hall := ((writes_blank (blank_indent depth)).append hs).append (writes_blank blank_lineEnd)
  simpa [Maven.line, indent] using hall

theorem writes_element (h : IsTagName name) (ht : '<' ∉ text.toList) (depth : Nat) :
    Writes (line depth (element name text)) (around name []) [(name, text)] := by
  have htext : element name text =
      "<" ++ name ++ ">" ++ text ++ ("<" ++ ("/" ++ name) ++ ">") := by
    simp [element, ← String.toList_inj]
  have hsaid : Writes (element name text) (around name []) [(name, text)] := by
    rw [htext]
    refine ⟨_, (Markup.reads_text ht).enclosed h.encloses, rfl, rfl, fun other _ => ?_⟩
    rw [Content.texts_enclosed]
    by_cases hname : name = other <;> simp [hname]
  exact hsaid.line depth

/-- An element with another name says nothing of the project. -/
theorem writes_other (h : IsTagName name) (hn : name ∉ statedNames) (ht : '<' ∉ text.toList)
    (depth : Nat) : Writes (line depth (element name text)) (around name []) [] := by
  obtain ⟨k, hk, hblank, htags, hsaid⟩ := writes_element h ht depth
  refine ⟨k, hk, hblank, htags, fun other hother => ?_⟩
  rw [hsaid other hother]
  simp [show name ≠ other by rintro rfl; exact hn hother]

theorem writes_nil : Writes (String.join []) [] [] := writes_blank (by decide)

theorem Writes.cons (hs : Writes s tags said) (hls : Writes (String.join ls) tags' said') :
    Writes (String.join (s :: ls)) (tags ++ tags') (said ++ said') := by
  rw [String.join_cons]
  exact hs.append hls

theorem Writes.concat (hls : Writes (String.join ls) tags said)
    (hms : Writes (String.join ms) tags' said') :
    Writes (String.join (ls ++ ms)) (tags ++ tags') (said ++ said') := by
  rw [String.join_append]
  exact hls.append hms

/-- A line that is there where there is something to say. -/
theorem writes_optional {o : Option String} {f : String → String}
    {g : String → String × String} (h : ∀ t ∈ o, Writes (f t) tags [g t]) :
    Writes (String.join (o.map f).toList) (if o.isSome then tags else []) (o.map g).toList := by
  cases o with
  | none => exact writes_nil
  | some t => simpa using (h t rfl).cons writes_nil

/-- Lines between those of an opening and a closing tag. -/
def block (depth : Nat) (name : String) (ls : List String) : List String :=
  [line depth ("<" ++ name ++ ">")] ++ ls ++ [line depth ("</" ++ name ++ ">")]

theorem join_block (depth : Nat) (name : String) (ls : List String) :
    String.join (block depth name ls) = indent depth ++ ("<" ++ name ++ ">" ++
      ("\n" ++ String.join ls ++ indent depth) ++ ("<" ++ ("/" ++ name) ++ ">")) ++ "\n" := by
  simp [block, line, indent, ← String.toList_inj]

theorem writes_inside (hs : Writes (String.join ls) tags said) (depth : Nat) :
    Writes ("\n" ++ String.join ls ++ indent depth) tags said := by
  have hall := ((writes_blank blank_lineEnd).append hs).append (writes_blank (blank_indent depth))
  simpa using hall

theorem Writes.block (hs : Writes (String.join ls) tags said) (h : IsTagName name)
    (hn : name ∉ statedNames) (depth : Nat) :
    Writes (String.join (block depth name ls)) (around name tags) [] := by
  have helement := (writes_inside hs depth).enclosed h hn
  have hall :=
    ((writes_blank (blank_indent depth)).append helement).append (writes_blank blank_lineEnd)
  rw [join_block]
  simpa using hall

/-! Dependencies. -/

def coordinateLines (depth : Nat) (groupId artifactId version : String) : List String :=
  [line depth (element "groupId" groupId), line depth (element "artifactId" artifactId),
    line depth (element "version" version)]

def coordinateTags : List String :=
  around "groupId" [] ++ around "artifactId" [] ++ around "version" []

theorem writes_coordinates {groupId artifactId version : String} (hg : '<' ∉ groupId.toList)
    (ha : '<' ∉ artifactId.toList) (hv : '<' ∉ version.toList) (depth : Nat) :
    Writes (String.join (coordinateLines depth groupId artifactId version)) coordinateTags
      [("groupId", groupId), ("artifactId", artifactId), ("version", version)] := by
  have hgroup := writes_element (by decide : IsTagName "groupId") hg depth
  have hartifact := writes_element (by decide : IsTagName "artifactId") ha depth
  have hversion := writes_element (by decide : IsTagName "version") hv depth
  have hall : Writes (String.join (coordinateLines depth groupId artifactId version)) _ _ :=
    hgroup.cons (hartifact.cons (hversion.cons writes_nil))
  simpa [coordinateTags] using hall

/-- No part of the dependency starts a tag. -/
structure IsPlain (d : Dependency) : Prop where
  groupId : '<' ∉ d.groupId.toList
  artifactId : '<' ∉ d.artifactId.toList
  version : '<' ∉ d.version.toList
  scope : ∀ s ∈ d.scope, '<' ∉ s.toList

instance (d : Dependency) : Decidable (IsPlain d) :=
  decidable_of_iff ('<' ∉ d.groupId.toList ∧ '<' ∉ d.artifactId.toList ∧ '<' ∉ d.version.toList ∧
      ∀ s ∈ d.scope, '<' ∉ s.toList)
    ⟨fun h => ⟨h.1, h.2.1, h.2.2.1, h.2.2.2⟩, fun h => ⟨h.1, h.2, h.3, h.4⟩⟩

theorem isPlain_of_mem (h : d ∈ dependencies e) : IsPlain d := by
  -- whatever is asked for, there is no other dependency than with all extras
  have hall : ∀ d ∈ dependencies ⟨true, true, true, true, true, true, true⟩, IsPlain d := by
    decide
  refine hall d ?_
  simp only [dependencies, Extras.dependencies, List.mem_append, List.mem_ite_nil_right,
    if_true] at h ⊢
  grind

def dependencyTags (d : Dependency) : List String :=
  around "dependency" (coordinateTags ++ if d.scope.isSome then around "scope" [] else [])

theorem dependencyLines_eq (depth : Nat) (d : Dependency) : dependencyLines depth d =
    block depth "dependency" (coordinateLines (depth + 1) d.groupId d.artifactId d.version ++
      (d.scope.map fun s => line (depth + 1) (element "scope" s)).toList) := rfl

theorem writes_dependencyLines (h : IsPlain d) (depth : Nat) :
    Writes (String.join (dependencyLines depth d)) (dependencyTags d) [] := by
  have hcoordinates := writes_coordinates h.groupId h.artifactId h.version (depth + 1)
  have hscope := writes_optional (o := d.scope) (g := fun s => ("scope", s)) fun s hs =>
    writes_element (by decide : IsTagName "scope") (h.scope s hs) (depth + 1)
  rw [dependencyLines_eq]
  exact (hcoordinates.concat hscope).block (by decide) (by decide) depth

theorem writes_flatMap {α : Type} {as : List α} {f g : α → List String}
    (h : ∀ a ∈ as, Writes (String.join (f a)) (g a) []) :
    Writes (String.join (as.flatMap f)) (as.flatMap g) [] := by
  induction as with
  | nil => exact writes_nil
  | cons a as ih => exact (h a (by simp)).concat (ih fun b hb => h b (by simp [hb]))

theorem writes_dependencies (e : Extras) (depth : Nat) :
    Writes (String.join ((dependencies e).flatMap (dependencyLines depth)))
      ((dependencies e).flatMap dependencyTags) [] :=
  writes_flatMap fun _ hd => writes_dependencyLines (isPlain_of_mem hd) depth

theorem dependencyBlock_eq (depth : Nat) (ds : List Dependency) : dependencyBlock depth ds =
    block depth "dependencies" (ds.flatMap (dependencyLines (depth + 1))) := rfl

theorem writes_dependencyBlock (e : Extras) (depth : Nat) :
    Writes (String.join (dependencyBlock depth (dependencies e)))
      (around "dependencies" ((dependencies e).flatMap dependencyTags)) [] := by
  rw [dependencyBlock_eq]
  exact (writes_dependencies e (depth + 1)).block (by decide) (by decide) depth

/-! Projects. -/

/-- What a project says of itself: its coordinates without blank margins, and its descriptions
unless they are blank. -/
def ProjectInfo.stated (info : ProjectInfo) : List (String × String) :=
  [("groupId", Text.trimmed info.groupId), ("artifactId", Text.trimmed info.artifactId),
    ("version", Text.trimmed info.version)] ++
    ((Text.nonBlank info.name).map ("name", ·)).toList ++
    ((Text.nonBlank info.description).map ("description", ·)).toList

def escaped (said : List (String × String)) : List (String × String) :=
  said.map fun e => (e.1, escapeXml e.2)

def pluginTags (configuration : List String) : List String :=
  around "plugin" (coordinateTags ++ configuration)

def propertyTags : List String :=
  around "properties" (around "maven.compiler.source" [] ++ around "maven.compiler.target" [] ++
    around "project.build.sourceEncoding" [])

def buildTags : List String :=
  around "build" (around "plugins" (
    pluginTags (around "configuration" (around "source" [] ++ around "target" [])) ++
    pluginTags []))

/-- The tags inside a project. -/
def projectTags (e : Extras) (named described : Bool) : List String :=
  around "modelVersion" [] ++ coordinateTags ++ around "packaging" [] ++
    (if named then around "name" [] else []) ++
    (if described then around "description" [] else []) ++ propertyTags ++
    around "dependencies" ((dependencies e).flatMap dependencyTags) ++ buildTags

def propertyLines (v : JavaVersion) : List String :=
  block 1 "properties" [line 2 (element "maven.compiler.source" v.release),
    line 2 (element "maven.compiler.target" v.release),
    line 2 (element "project.build.sourceEncoding" "UTF-8")]

def buildLines (v : JavaVersion) : List String :=
  block 1 "build" (block 2 "plugins" (
    plugin "maven-compiler-plugin" "3.13.0" (block 4 "configuration"
      [line 5 (element "source" v.release), line 5 (element "target" v.release)]) ++
    plugin "maven-surefire-plugin" "3.2.5" []))

/-- The lines inside a project. -/
def insideLines (c : PomConfig) : List String :=
  let info := c.projectInfo
  [line 1 (element "modelVersion" "4.0.0"), "\n"] ++
    coordinateLines 1 (escapeXml (Text.trimmed info.groupId))
      (escapeXml (Text.trimmed info.artifactId)) (escapeXml (Text.trimmed info.version)) ++
    [line 1 (element "packaging" "jar")] ++
    description "name" info.name ++ description "description" info.description ++ ["\n"] ++
    propertyLines c.javaVersion ++ ["\n"] ++ dependencyBlock 1 (dependencies c.extras) ++
    ["\n"] ++ buildLines c.javaVersion

def headingLines : List String := [
  "<?xml version=\"1.0\" encoding=\"UTF-8\"?>\n",
  "<project xmlns=\"http://maven.apache.org/POM/4.0.0\"\n",
  "         xmlns:xsi=\"http://www.w3.org/2001/XMLSchema-instance\"\n",
  "         xsi:schemaLocation=\"http://maven.apache.org/POM/4.0.0 ",
  "http://maven.apache.org/xsd/maven-4.0.0.xsd\">\n"]

theorem projectLines_eq (c : PomConfig) :
    projectLines c = headingLines ++ insideLines c ++ ["</project>\n"] := by
  simp only [projectLines, insideLines, headingLines, propertyLines, buildLines, block,
    List.append_assoc, List.cons_append, List.nil_append]
  rfl

theorem writes_description (name : String) (text : Option String) (h : IsTagName name) :
    Writes (String.join (description name text))
      (if (Text.nonBlank text).isSome then around name [] else [])
      (escaped ((Text.nonBlank text).map (name, ·)).toList) := by
  have hlines := writes_optional (o := Text.nonBlank text)
    (g := fun t => (name, escapeXml t)) fun t _ =>
      writes_element h (not_mem_escapeXml (by decide) t) 1
  have hsaid : escaped ((Text.nonBlank text).map (name, ·)).toList =
      ((Text.nonBlank text).map fun t => (name, escapeXml t)).toList := by
    cases Text.nonBlank text <;> rfl
  rw [hsaid]
  exact hlines

theorem plugin_eq (artifactId version : String) (configuration : List String) :
    plugin artifactId version configuration = block 3 "plugin"
      (coordinateLines 4 "org.apache.maven.plugins" artifactId version ++ configuration) := rfl

theorem writes_plugin {artifactId version : String} {configuration : List String}
    (ha : '<' ∉ artifactId.toList) (hv : '<' ∉ version.toList)
    (hc : Writes (String.join configuration) tags said) :
    Writes (String.join (plugin artifactId version configuration)) (pluginTags tags) [] := by
  have hcoordinates :=
    writes_coordinates (by decide : '<' ∉ "org.apache.maven.plugins".toList) ha hv 4
  rw [plugin_eq]
  exact (hcoordinates.concat hc).block (by decide) (by decide) 3

theorem not_mem_release (v : JavaVersion) : '<' ∉ v.release.toList := by
  cases v <;> decide

theorem writes_build (v : JavaVersion) : Writes (String.join (buildLines v)) buildTags [] := by
  have hsource : Writes (line 5 (element "source" v.release)) (around "source" []) [] :=
    writes_other (by decide) (by decide) (not_mem_release v) 5
  have htarget : Writes (line 5 (element "target" v.release)) (around "target" []) [] :=
    writes_other (by decide) (by decide) (not_mem_release v) 5
  have hconfiguration := (hsource.cons (htarget.cons writes_nil)).block
    (by decide : IsTagName "configuration") (by decide) 4
  have hcompiler := writes_plugin (by decide : '<' ∉ "maven-compiler-plugin".toList)
    (by decide : '<' ∉ "3.13.0".toList) hconfiguration
  have hsurefire := writes_plugin (by decide : '<' ∉ "maven-surefire-plugin".toList)
    (by decide : '<' ∉ "3.2.5".toList) writes_nil
  have hplugins := (hcompiler.concat hsurefire).block
    (by decide : IsTagName "plugins") (by decide) 2
  have hbuild := hplugins.block (by decide : IsTagName "build") (by decide) 1
  simpa [buildLines, buildTags] using hbuild

theorem writes_properties (v : JavaVersion) :
    Writes (String.join (propertyLines v)) propertyTags [] := by
  have hsource : Writes (line 2 (element "maven.compiler.source" v.release))
      (around "maven.compiler.source" []) [] :=
    writes_other (by decide) (by decide) (not_mem_release v) 2
  have htarget : Writes (line 2 (element "maven.compiler.target" v.release))
      (around "maven.compiler.target" []) [] :=
    writes_other (by decide) (by decide) (not_mem_release v) 2
  have hencoding : Writes (line 2 (element "project.build.sourceEncoding" "UTF-8"))
      (around "project.build.sourceEncoding" []) [] :=
    writes_other (by decide) (by decide) (by decide) 2
  have hinside := hsource.cons (htarget.cons (hencoding.cons writes_nil))
  have hproperties := hinside.block (by decide : IsTagName "properties") (by decide) 1
  simpa [propertyLines, propertyTags] using hproperties

theorem writes_insideLines (c : PomConfig) :
    Writes (String.join (insideLines c))
      (projectTags c.extras (Text.nonBlank c.projectInfo.name).isSome
        (Text.nonBlank c.projectInfo.description).isSome) (escaped c.projectInfo.stated) := by
  have hplain (value : String) : '<' ∉ (escapeXml value).toList :=
    not_mem_escapeXml (by decide) value
  have hmodel : Writes (line 1 (element "modelVersion" "4.0.0")) (around "modelVersion" []) [] :=
    writes_other (by decide) (by decide) (by decide) 1
  have hpackaging : Writes (line 1 (element "packaging" "jar")) (around "packaging" []) [] :=
    writes_other (by decide) (by decide) (by decide) 1
  have hgap := (writes_blank blank_lineEnd).cons writes_nil
  have hcoordinates := ((hmodel.cons hgap).concat (writes_coordinates
    (hplain (Text.trimmed c.projectInfo.groupId)) (hplain (Text.trimmed c.projectInfo.artifactId))
    (hplain (Text.trimmed c.projectInfo.version)) 1)).concat (hpackaging.cons writes_nil)
  have hdescribed := (hcoordinates.concat
    (writes_description "name" c.projectInfo.name (by decide))).concat
    (writes_description "description" c.projectInfo.description (by decide))
  have hproperties := (hdescribed.concat hgap).concat (writes_properties c.javaVersion)
  have hdependencies := (hproperties.concat hgap).concat (writes_dependencyBlock c.extras 1)
  have hall : Writes (String.join (insideLines c)) _ _ :=
    (hdependencies.concat hgap).concat (writes_build c.javaVersion)
  simpa [projectTags, escaped, ProjectInfo.stated] using hall

/-! Documents. -/

def declaration : String := "?xml version=\"1.0\" encoding=\"UTF-8\"?"

/-- The tag of a project, with where its names are defined. -/
def projectTag : String :=
  "project xmlns=\"http://maven.apache.org/POM/4.0.0\"\n" ++
    "         xmlns:xsi=\"http://www.w3.org/2001/XMLSchema-instance\"\n" ++
    "         xsi:schemaLocation=\"http://maven.apache.org/POM/4.0.0 " ++
    "http://maven.apache.org/xsd/maven-4.0.0.xsd\""

/-- The tag from its lines, with which it is quicker to compute than as one text. -/
theorem toList_projectTag : projectTag.toList =
    "project xmlns=\"http://maven.apache.org/POM/4.0.0\"\n".toList ++
      "         xmlns:xsi=\"http://www.w3.org/2001/XMLSchema-instance\"\n".toList ++
      "         xsi:schemaLocation=\"http://maven.apache.org/POM/4.0.0 ".toList ++
      "http://maven.apache.org/xsd/maven-4.0.0.xsd\"".toList := by
  unfold projectTag
  rewrite [String.toList_append, String.toList_append, String.toList_append]
  exact Eq.refl _

theorem encloses_projectTag : Encloses projectTag.toList "project" where
  opening := by
    rewrite [toList_projectTag]
    decide +kernel
  closing := by decide
  isNamed := by
    rewrite [toList_projectTag]
    decide +kernel

/-- The tags of a build file. -/
def outline (t : PomType) (e : Extras) (named described : Bool) : List String :=
  match t with
  | .full => declaration :: projectTag :: projectTags e named described ++ ["/project"]
  | .dependenciesOnly => around "dependencies" ((dependencies e).flatMap dependencyTags)

/-- What a build file says of the project, if it has one. -/
def PomConfig.stated (c : PomConfig) : List (String × String) :=
  match c.pomType with
  | .full => c.projectInfo.stated
  | .dependenciesOnly => []

/-- A document with one element, behind a text without elements. -/
theorem exists_document {front : String} {k : Content} (hfront : Reads front k)
    (hblank : k.text.all Text.isBlank = true) (hnone : k.elements = []) (tag name : String)
    (htag : Encloses tag.toList name) (hs : Writes s tags said) :
    ∃ l, Markup.read? (front ++ ("<" ++ tag ++ ">" ++ s ++ ("<" ++ ("/" ++ name) ++ ">")) ++
        "\n") = some l ∧ l.tags = k.tags ++ (tag :: tags ++ ["/" ++ name]) ∧
      ∀ outer, ∀ other ∈ statedNames, l.texts [outer] other =
        if name = outer then (said.filter fun e => e.1 = other).map fun e => e.2.toList
        else [] := by
  obtain ⟨inner, hinner, -, htags, hsaid⟩ := hs
  have hend : Reads "\n" { text := "\n".toList } := Markup.reads_text (by decide)
  have hall := (hfront.append (hinner.enclosed htag)).append hend
  refine ⟨_, Markup.read?_of_reads hall ?_, ?_, fun outer other hother => ?_⟩
  · have hline : Text.isBlank '\n' = true := by decide
    simp [Content.append_def, Content.enclosed, hblank, hline]
  · simp [htags, Content.append_def, Content.enclosed]
  · have hfronttexts : k.texts [outer] other = [] := by simp [Content.texts, hnone]
    rw [Content.texts_append, Content.texts_append, hfronttexts, Content.texts_enclosed_cons,
      Content.texts_plain, hsaid other hother, List.append_nil, List.nil_append]

/-- What comes in front of a project. -/
theorem reads_front : Reads ("<" ++ declaration ++ ">" ++ "\n")
    ({ tags := [declaration] } ++ { text := "\n".toList }) :=
  (Markup.reads_declaration (by decide) (by decide)).append
    (Markup.reads_text (by decide))

theorem join_projectLines (c : PomConfig) : String.join (projectLines c) =
    "<" ++ declaration ++ ">" ++ "\n" ++ ("<" ++ projectTag ++ ">" ++
      ("\n" ++ String.join (insideLines c)) ++ ("<" ++ ("/" ++ "project") ++ ">")) ++ "\n" := by
  have hheading : String.join headingLines =
      "<" ++ declaration ++ ">" ++ "\n" ++ ("<" ++ projectTag ++ ">") ++ "\n" := by
    decide +kernel
  have hend : String.join ["</project>\n"] = "<" ++ ("/" ++ "project") ++ ">" ++ "\n" := by
    decide
  rw [projectLines_eq, String.join_append, String.join_append, hheading, hend]
  simp only [String.append_assoc]

theorem exists_project (c : PomConfig) :
    ∃ k, Markup.read? (String.join (projectLines c)) = some k ∧
      k.tags = outline .full c.extras (Text.nonBlank c.projectInfo.name).isSome
        (Text.nonBlank c.projectInfo.description).isSome ∧
      ∀ name ∈ statedNames, k.texts ["project"] name =
        ((escaped c.projectInfo.stated).filter fun e => e.1 = name).map fun e => e.2.toList := by
  obtain ⟨k, hk, htags, htexts⟩ := exists_document reads_front (by decide) rfl projectTag "project"
    encloses_projectTag ((writes_blank blank_lineEnd).append (writes_insideLines c))
  refine ⟨k, ?_, ?_, fun name hn => ?_⟩
  · rw [join_projectLines, hk]
  · rw [htags]
    rfl
  · rw [htexts "project" name hn, if_pos rfl]
    rfl

/-- Dependencies alone are no project. -/
theorem exists_dependencies (e : Extras) :
    ∃ k, Markup.read? (String.join (dependencyBlock 0 (dependencies e))) = some k ∧
      (∀ named described, k.tags = outline .dependenciesOnly e named described) ∧
      ∀ name ∈ statedNames, k.texts ["project"] name = [] := by
  have hfront : Reads (indent 0) { text := (indent 0).toList } := Markup.reads_text (by decide)
  obtain ⟨k, hk, htags, htexts⟩ := exists_document hfront (by decide) rfl "dependencies"
    "dependencies" (by decide : IsTagName "dependencies").encloses
    (writes_inside (writes_dependencies e 1) 0)
  refine ⟨k, ?_, fun _ _ => ?_, fun name hn => ?_⟩
  · rw [dependencyBlock_eq, join_block, hk]
  · rw [htags]
    rfl
  · rw [htexts "project" name hn, if_neg (by decide)]

/-- What was escaped holds no mark, and is resolved again. -/
theorem resolved_escaped (said : List (String × String)) (name : String) :
    let texts := ((escaped said).filter fun e => e.1 = name).map fun e => e.2.toList
    (∀ text ∈ texts, ∀ m ∈ Markup.marks, m ∉ text) ∧
      texts.map Markup.resolve? =
        (said.filter fun e => e.1 = name).map fun e => some e.2.toList := by
  intro texts
  have htexts : texts = (said.filter fun e => e.1 = name).map fun e => (escapeXml e.2).toList := by
    simp [texts, escaped, List.filter_map, Function.comp_def]
  rw [htexts]
  constructor
  · intro text htext m hm
    obtain ⟨e, -, rfl⟩ := List.mem_map.mp htext
    exact not_mem_escapeXml hm e.2
  · simp only [List.map_map, Function.comp_def, resolve?_escapeXml]

/-- A build file is a document. Its tags are told by its kind, by the dependencies that are asked
for and by which descriptions are not blank. The elements in which it says what the project is are
those of the settings, and their texts hold no mark and are resolved to what was set. -/
theorem text_never_becomes_markup {xml : String} (h : pom c = .ok xml) :
    ∃ k, Markup.read? xml = some k ∧
      k.tags = outline c.pomType c.extras (Text.nonBlank c.projectInfo.name).isSome
        (Text.nonBlank c.projectInfo.description).isSome ∧
      ∀ name ∈ statedNames,
        (∀ text ∈ k.texts ["project"] name, ∀ m ∈ Markup.marks, m ∉ text) ∧
        (k.texts ["project"] name).map Markup.resolve? =
          (c.stated.filter fun e => e.1 = name).map fun e => some e.2.toList := by
  have hxml : xml = String.join (match c.pomType with
      | .full => projectLines c
      | .dependenciesOnly => dependencyBlock 0 (dependencies c.extras)) := by
    rw [pom] at h
    split at h
    · exact (Except.ok.inj h).symm
    · cases h
  rw [hxml, PomConfig.stated]
  cases c.pomType with
  | full =>
    obtain ⟨k, hk, htags, htexts⟩ := exists_project c
    refine ⟨k, hk, htags, fun name hn => ?_⟩
    rw [htexts name hn]
    exact resolved_escaped c.projectInfo.stated name
  | dependenciesOnly =>
    obtain ⟨k, hk, htags, htexts⟩ := exists_dependencies c.extras
    refine ⟨k, hk, htags _ _, fun name hn => ?_⟩
    rw [htexts name hn]
    simp

/-- A project whose texts look like tags, entities and comments. -/
def hostile : PomConfig where
  projectInfo := {
    groupId := " a&lt;b</groupId><x y=\"'>"
    artifactId := "&amp;"
    version := "1"
    name := some "<!-- "
    description := some " \n" }
  extras := { junit := true }

theorem hostile_text_stays_text : ∃ xml k, pom hostile = .ok xml ∧ Markup.read? xml = some k ∧
    k.tags = outline .full { junit := true } true false ∧
      (k.texts ["project"] "groupId").map Markup.resolve? =
        [some "a&lt;b</groupId><x y=\"'>".toList] ∧
      (k.texts ["project"] "name").map Markup.resolve? = [some "<!-- ".toList] ∧
      (k.texts ["project"] "description").map Markup.resolve? = [] := by
  have hmissing : hostile.missing = [] := by decide
  obtain ⟨xml, hxml⟩ : ∃ xml, pom hostile = .ok xml := by
    rw [pom, hmissing]
    exact ⟨_, rfl⟩
  obtain ⟨k, hk, htags, htexts⟩ := text_never_becomes_markup hxml
  refine ⟨xml, k, hxml, hk, htags, ?_, ?_, ?_⟩
  · exact (htexts "groupId" (by decide)).2
  · exact (htexts "name" (by decide)).2
  · exact (htexts "description" (by decide)).2

end CurlScribe.Maven
