import RuleHost.Config.Files
import RuleHost.Proofs.WrittenDocument

/-! A configuration that was saved is the one that is loaded, whatever its texts hold. -/

namespace RuleHost

namespace Files.Tree

/-- A path leads to the same place in a tree that has at least the same folders. -/
theorem follow_mono {tree other : Tree}
    (folders : ∀ place, tree.node? place = some .folder → other.node? place = some .folder)
    {place last : Place} {parts : List String} (found : tree.follow place parts = .ok last) :
    other.follow place parts = .ok last := by
  induction parts generalizing place with
  | nil => exact found
  | cons part rest ih =>
    rw [follow] at found ⊢
    split at found
    next => cases found
    next => cases found
    next folder =>
      rw [folders place folder]
      exact ih found

theorem node?_put {tree : Tree} {place : Place} (inner : place ≠ []) (node : Node) (other : Place) :
    (tree.put place node).node? other = if place = other then some node else tree.node? other := by
  unfold node? put
  by_cases root : other.isEmpty
  · have apart : place ≠ other := by
      rintro rfl
      exact inner (List.isEmpty_iff.mp root)
    rw [if_pos root, if_pos root, if_neg apart]
  · rw [if_neg root, if_neg root, Table.find?_insert]

theorem follow_append {tree : Tree} {place last : Place} {first second : List String}
    (found : tree.follow place (first ++ second) = .ok last) :
    ∃ middle, tree.follow place first = .ok middle ∧ tree.follow middle second = .ok last := by
  induction first generalizing place with
  | nil => exact ⟨place, rfl, found⟩
  | cons part rest ih =>
    rw [List.cons_append, follow] at found
    rw [follow]
    split at found
    next => cases found
    next => cases found
    next => exact ih found

/-- A path that ends with a dot leads to a folder, if it leads anywhere. -/
theorem follow_dot {tree : Tree} {place last : Place} {parts : List String}
    (found : tree.follow place (parts ++ ["."]) = .ok last) : tree.node? last = some .folder := by
  obtain ⟨middle, _, rest⟩ := follow_append found
  rw [follow] at rest
  split at rest
  next => cases rest
  next => cases rest
  next folder =>
    have stays : next middle "." = middle := if_pos rfl
    rw [follow, stays] at rest
    cases rest
    exact folder

/-- A file is written in a place that no folder has, and the path of a file has no slash at its end. -/
theorem write_eq_ok {tree after : Tree} {path : String} {content : ByteArray}
    (written : tree.write path content = .ok after) :
    ∃ place, tree.find path = .ok place ∧ tree.node? place ≠ some .folder ∧
      after = tree.put place (.file content) := by
  unfold write at written
  dsimp only at written
  split at written
  next =>
    cases found : tree.follow (tree.start path) (parts (folderOf path) ++ ["."]) with
    | error => rw [found] at written; cases written
    | ok place =>
      simp only [found, bind, Except.bind, follow_dot found] at written
      cases written
  next =>
    cases found : tree.find path with
    | error => rw [found] at written; cases written
    | ok place =>
      simp only [found, bind, Except.bind] at written
      split at written
      next => cases written
      next file =>
        cases written
        exact ⟨place, rfl, file, rfl⟩

/-- A path leads to the place of a file that was written there also afterwards. -/
theorem find_put {tree : Tree} {path : String} {place : Place} (found : tree.find path = .ok place)
    (file : tree.node? place ≠ some .folder) (node : Node) :
    (tree.put place node).find path = .ok place := by
  unfold find at found ⊢
  split at found
  next => cases found
  next named =>
    rw [if_neg named]
    refine follow_mono (fun other folder => ?_) found
    have inner : place ≠ [] := by rintro rfl; exact file rfl
    rw [node?_put inner, if_neg, folder]
    rintro rfl
    exact file folder

/-- What was written is what is read. -/
theorem read_write {tree after : Tree} {path : String} {content : ByteArray}
    (written : tree.write path content = .ok after) : after.read path = .ok content := by
  obtain ⟨place, found, file, rfl⟩ := write_eq_ok written
  have inner : place ≠ [] := by rintro rfl; exact file rfl
  simp only [read, find_put found file, bind, Except.bind, node?_put inner, if_true]
  rfl

end Files.Tree

namespace Config

theorem plain_sections (config : Config) : ∀ block ∈ config.sections, block.Plain := by
  have bare : ∀ name ∈ ["script", "log", "host", "a_string", "delay_ms", "initial_output", "level",
      "greeting", "rule_type"], Toml.Bare name := by
    intro name member
    simp only [List.mem_cons, List.not_mem_nil, or_false] at member
    obtain rfl | rfl | rfl | rfl | rfl | rfl | rfl | rfl | rfl := member <;>
      exact ⟨by decide, List.all_eq_true.mp rfl⟩
  intro block member
  simp only [sections, List.mem_cons, List.not_mem_nil, or_false] at member
  obtain rfl | rfl | rfl := member
  · cases config.initialOutput <;> exact ⟨bare _ (by simp), by simp [bare], by simp⟩
  · exact ⟨bare _ (by simp), by simp [bare], by simp⟩
  · exact ⟨bare _ (by simp), by simp [bare], by simp⟩

theorem ofName?_name (level : LogLevel) : LogLevel.ofName? level.name = some level := by
  cases level <;> rfl

theorem delay?_toNat (delay : UInt64) : delay? (.integer delay.toNat) = some delay := by
  have small : delay.toNat < UInt64.size := delay.toNat_lt
  rw [delay?, if_pos]
  · simp
  · simpa using small

theorem ofTable?_sections (config : Config) :
    ofTable? (config.sections.map Toml.Section.table) = some config := by
  obtain ⟨constant, delay, initialOutput, level, greeting, ruleType⟩ := config
  cases initialOutput <;>
    simp [ofTable?, sections, section?, read, Toml.find?, Toml.Section.table, Toml.Scalar.value, text?,
      level?, delay?_toNat, ofName?_name]

/-- The written form of a configuration is read as that configuration. -/
theorem parse?_write? {config : Config} {text : String} (written : config.write? = some text) :
    parse? text = some config := by
  unfold write? at written
  split at written
  next =>
    cases written
    have distinct : (config.sections.map Toml.Section.name).Nodup := by
      change ["script", "log", "host"].Nodup
      decide
    rw [parse?, Toml.parse?_writeSections config.plain_sections distinct]
    exact ofTable?_sections config
  next => cases written

theorem write?_eq_some {config : Config} (small : config.delay.toNat < 0x8000000000000000) :
    config.write? = some (Toml.writeSections config.sections) :=
  if_pos small

theorem ofFile_toUTF8 {path text : String} {config : Config} (parsed : parse? text = some config) :
    ofFile path (.ok text.toUTF8) = .ok config := by
  have decoded : String.fromUTF8? text.toUTF8 = some text := dif_pos text.isValidUTF8
  simp only [ofFile, decoded, parsed]

/-- Where a configuration has been saved, it is loaded again as it is; and it has a written form unless its
delay is `2 ^ 63` or more. -/
theorem save_load (config : Config) (path : String) (tree : Files.Tree) :
    (∀ after, config.save path tree = (.ok (), after) → load after path = .ok config) ∧
      (config.delay.toNat < 0x8000000000000000 →
        (∃ text, config.write? = some text ∧ parse? text = some config) ∧
          (config.save path tree).1 ≠ .error .write) := by
  constructor
  · intro after saved
    unfold save at saved
    dsimp only at saved
    split at saved
    next => cases saved
    next folders _ =>
      split at saved
      next => cases saved
      next text written =>
        split at saved
        next => cases saved
        next wrote =>
          cases saved
          rw [load, Files.Tree.read_write wrote]
          exact ofFile_toUTF8 (parse?_write? written)
  · intro small
    have written := write?_eq_some small
    refine ⟨⟨_, written, parse?_write? written⟩, ?_⟩
    unfold save
    dsimp only
    rw [written]
    split
    next => nofun
    next =>
      dsimp only
      split <;> nofun

/-- Texts that call for several forms: with quotes of both kinds and a backslash, with line ends on either
side, and with control characters. -/
def awkward : Config :=
  { constant := "\"'\\", delay := 0x7fffffffffffffff, initialOutput := some "", level := .warn
    greeting := "\n'''\"\"\n", ruleType := "\x00\r" }

theorem save_load_awkward :
    (awkward.save "host.toml" {}).1 = .ok () ∧ awkward.delay.toNat < 0x8000000000000000 ∧
      load (awkward.save "host.toml" {}).2 "host.toml" = .ok awkward := by
  have small : awkward.delay.toNat < 0x8000000000000000 := by decide
  have folder : Files.folderOf "host.toml" = "" := by cbv
  have wrote : ∀ content, ({} : Files.Tree).write "host.toml" content =
      .ok (Files.Tree.put {} ["host.toml"] (.file content)) := by
    intro content
    have slash : ("host.toml".toList.getLast? == some '/') = false := by cbv
    have found : ({} : Files.Tree).find "host.toml" = .ok ["host.toml"] := by cbv
    simp only [Files.Tree.write, slash, Bool.false_eq_true, if_false, found]
    rfl
  have saved : (awkward.save "host.toml" {}).1 = .ok () := by
    simp only [save, folder, write?_eq_some small, wrote, beq_self_eq_true, if_true]
  exact ⟨saved, small, (save_load awkward "host.toml" {}).1 _ (Prod.ext saved rfl)⟩

end Config
end RuleHost
