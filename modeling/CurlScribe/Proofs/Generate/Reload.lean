import CurlScribe.Generate.Config
import CurlScribe.Proofs.Json.Given
import CurlScribe.Proofs.Json.ReadBack
import CurlScribe.Proofs.Text.Trim

/-! Settings that are loaded, written and loaded again. -/
namespace CurlScribe

open Json

namespace Maven

theorem PomType.readsBack (t : PomType) :
    (Codec.named PomType.name [.full, .dependenciesOnly]).ReadsBack t := by
  cases t <;> exact ⟨nofun, rfl⟩

theorem JavaVersion.readsBack (v : JavaVersion) : JavaVersion.codec.ReadsBack v := by
  cases v <;> exact ⟨nofun, rfl⟩

theorem ProjectInfo.readsBack (info : ProjectInfo) : ProjectInfo.record.codec.ReadsBack info := by
  have hspoken := Codec.echoes_of_readsBack Codec.readsBack_text
  refine ⟨nofun, ?_⟩
  rw [Record.read_write, record]
  iterate 3 rw [Record.readFields_always rfl rfl (Codec.readsBack_text _)]
  iterate 2 rw [Record.readFields_nullable hspoken rfl rfl]
  simp only [Record.readFields_written_nil, Option.bind_fun_some]

theorem Extras.readsBack (e : Extras) : Extras.record.codec.ReadsBack e := by
  refine ⟨nofun, ?_⟩
  rw [Record.read_write, record]
  iterate 7 rw [Record.readFields_always rfl rfl (Codec.readsBack_switch _)]
  rw [Record.readFields_written_nil]

theorem PomConfig.readsBack (p : PomConfig) : PomConfig.record.codec.ReadsBack p := by
  refine ⟨nofun, ?_⟩
  rw [Record.read_write, record, Record.readFields_always rfl rfl (PomType.readsBack _),
    Record.readFields_always rfl rfl (ProjectInfo.readsBack _),
    Record.readFields_always rfl rfl (Extras.readsBack _),
    Record.readFields_always rfl rfl (JavaVersion.readsBack _), Record.readFields_written_nil]

end Maven

theorem Extent.readsBack (e : Extent) : (Codec.named Extent.name [.full, .method]).ReadsBack e := by
  cases e <;> exact ⟨nofun, rfl⟩

namespace Config

variable {v : Json} {c : Config} {groups : List String}

/-! Groups. -/

/-- Groups that are neither blank nor have margins. -/
def AreTidy (groups : List String) : Prop := ∀ g ∈ groups, Text.trimmed g = g ∧ g ≠ ""

theorem areTidy_of_trimmed (groups : List String) :
    AreTidy ((groups.map Text.trimmed).filter (· != "")) := by
  intro g hg
  obtain ⟨hmem, hne⟩ := List.mem_filter.mp hg
  obtain ⟨t, -, rfl⟩ := List.mem_map.mp hmem
  exact ⟨Text.trimmed_trimmed t, by simpa using hne⟩

theorem read_items (items : List Json) :
    groupsCodec.read (.arr items) = ((Codec.list .text).read (.arr items)).map fun groups =>
      (groups.map Text.trimmed).filter (· != "") := rfl

theorem areTidy_of_read (h : groupsCodec.read v = .ok groups) : AreTidy groups := by
  cases v with
  | str s =>
    obtain rfl := Except.ok.inj h
    exact areTidy_of_trimmed _
  | arr items =>
    rw [read_items] at h
    obtain ⟨_, -, rfl⟩ := exists_of_map h
    exact areTidy_of_trimmed _
  | null | bool _ | num _ | obj _ => cases h

theorem readsBack_groups (h : AreTidy groups) : groupsCodec.ReadsBack groups := by
  have htrimmed : groups.map Text.trimmed = groups :=
    (List.map_congr_left fun g hg => (h g hg).1).trans (List.map_id _)
  have hkept : groups.filter (· != "") = groups :=
    List.filter_eq_self.mpr fun g hg => by simpa using (h g hg).2
  have hlist : (Codec.list .text).read (.arr (groups.map Codec.text.write)) = .ok groups :=
    (Codec.readsBack_list fun s _ => Codec.readsBack_text s).2
  have hwrite : groupsCodec.write groups = .arr (groups.map Codec.text.write) := rfl
  refine ⟨nofun, ?_⟩
  rw [hwrite, read_items, hlist, Except.map, htrimmed, hkept]

/-- However settings are given, their groups are tidy. -/
theorem areTidy_testGroups (h : codec.read v = .ok c) : AreTidy c.testGroups := by
  have hkeep : ∀ f ∈ record.fields, f.name = "testGroups" ∨ f.Keeps testGroups := by
    simp [record, Field.keeps_always]
  have hstart : AreTidy record.start.testGroups := List.forall_mem_nil _
  refine Record.read_preserves (d := record) (P := fun c => AreTidy c.testGroups) (by decide) ?_
    hstart h
  intro f hf
  rcases hkeep f hf with hname | hkeep
  · have hfound : record.fields.find? (fun g => g.name == f.name) = some f :=
      Named.find_of_nodup (by decide) hf
    rw [hname] at hfound
    obtain rfl := Option.some.inj hfound
    intro v s t hread _
    obtain ⟨groups, hgroups, rfl⟩ := exists_of_map hread
    exact areTidy_of_read hgroups
  · exact hkeep.preserves AreTidy

/-- Settings with tidy groups read back as they were. -/
theorem read_write (h : AreTidy c.testGroups) : codec.read (codec.write c) = .ok c := by
  have htext := Codec.readsBack_text
  have hspoken := Codec.echoes_of_readsBack htext
  have hinteger := Codec.echoes_of_readsBack Codec.readsBack_integer32
  have hlist (as : List String) : (Codec.list .text).ReadsBack as :=
    Codec.readsBack_list fun s _ => htext s
  have hstatus (s : String) : statusCodec.ReadsBack s := ⟨nofun, rfl⟩
  rw [codec, Record.read_write, record, Record.readFields_always rfl rfl (Extent.readsBack _)]
  iterate 2 rw [Record.readFields_always rfl rfl (htext _)]
  rw [Record.readFields_always rfl rfl (Codec.readsBack_switch _),
    Record.readFields_always rfl rfl (hstatus _)]
  iterate 4 rw [Record.readFields_always rfl rfl (Codec.readsBack_switch _)]
  rw [Record.readFields_always rfl rfl (readsBack_groups h),
    Record.readFields_nullable hinteger rfl rfl, Record.readFields_nullable hspoken rfl rfl,
    Record.readFields_always rfl rfl (Codec.readsBack_switch _),
    Record.readFields_always rfl rfl (Codec.readsBack_count64 _),
    Record.readFields_always rfl rfl (Codec.readsBack_switch _),
    Record.readFields_always rfl rfl (Maven.PomConfig.readsBack _),
    Record.readFields_nullable hspoken rfl rfl, Record.readFields_always rfl rfl (hlist _),
    Record.readFields_written_nil]
  simp only [Option.bind_fun_some]

/-- Settings that are loaded, however they are given, are loaded again from their JSON form. -/
theorem load_write (h : load v = .ok c) : load (codec.write c) = .ok c := by
  obtain ⟨hread, hvalid⟩ := load_ok_iff.mp h
  exact load_ok_iff.mpr ⟨read_write (areTidy_testGroups hread), hvalid⟩

/-- Settings in other shapes than they are written in. -/
def lenient : Json := .obj [
  ("option", .obj [("method", .null)]),
  ("statusCode", .num (.whole 204 (by decide) (by decide))),
  ("testGroups", .str " smoke, ,api,"),
  ("testPriority", .null),
  ("pomConfig", .arr [.str "full", .arr [.str "org.example"], .obj [("junit", .bool true)],
    .str " 1.8"]),
  ("retries", .bool true)]

theorem lenient_reloads : ∃ c, load lenient = .ok c ∧ c.extent = .method ∧ c.statusCode = "204" ∧
    c.testGroups = ["smoke", "api"] ∧ c.pomConfig.javaVersion = .v8 ∧
    load (codec.write c) = .ok c := by
  have hload : load lenient = .ok {
      extent := .method
      statusCode := "204"
      testGroups := ["smoke", "api"]
      pomConfig := ⟨.full, { groupId := "org.example" }, { junit := true }, .v8⟩ } := by
    decide +kernel
  exact ⟨_, hload, rfl, rfl, rfl, rfl, load_write hload⟩

end Config

end CurlScribe
