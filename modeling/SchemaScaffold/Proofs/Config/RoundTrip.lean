import SchemaScaffold.Project.ConfigFile
import SchemaScaffold.Proofs.Config.Fields
import SchemaScaffold.Proofs.Project.Execution

/-!
# Saving and loading configurations

A configuration that was saved is loaded as it was. Of a document with only some of the entries
of a configuration, these are loaded, and whatever is left out is as it is without a
configuration.
-/

namespace SchemaScaffold

/-- A record with only those members whose keys are kept. -/
def Document.restrict (keep : String → Bool) : Document → Document
  | record members => record (members.filter (keep ·.1))
  | other => other

namespace Config

open Yaml (Node Describes IsWritable)

/-- The entries of a configuration's document that are kept, by their keys. -/
structure Kept where
  fields : String → Bool
  api : String → Bool
  env : String → Bool

/-- The document with only the entries that are kept, also within the settings. -/
def Kept.apply (kept : Kept) : Document → Document
  | .record members => .record ((members.filter (kept.fields ·.1)).map fun (key, value) =>
    (key, if key = "api" then value.restrict kept.api
      else if key = "env" then value.restrict kept.env
      else value))
  | other => other

/-- The texts about the interface of which some are kept, with the usual ones otherwise. -/
def restrictApi (keep : String → Bool) (api : ApiSettings) : ApiSettings :=
  let usual : ApiSettings := {}
  { title := if keep "title" then api.title else usual.title
    version := if keep "version" then api.version else usual.version
    description := if keep "description" then api.description else usual.description
    baseUrl := if keep "base_url" then api.baseUrl else usual.baseUrl
    collectionName := if keep "collection_name" then api.collectionName
      else usual.collectionName
    collectionDescription := if keep "collection_description" then api.collectionDescription
      else usual.collectionDescription }

/-- The values of the environment of which some are kept, with the usual ones otherwise. -/
def restrictEnv (keep : String → Bool) (env : EnvSettings) : EnvSettings :=
  let usual : EnvSettings := {}
  { port := if keep "port" then env.port else usual.port
    dbHost := if keep "db_host" then env.dbHost else usual.dbHost
    dbPort := if keep "db_port" then env.dbPort else usual.dbPort
    dbUser := if keep "db_user" then env.dbUser else usual.dbUser
    dbPassword := if keep "db_password" then env.dbPassword else usual.dbPassword }

/-- The configuration of which some entries are kept, with the usual ones otherwise. -/
def restrict (kept : Kept) (config : Config) : Config :=
  let usual : Config := {}
  { projectRoot := if kept.fields "project_root" then config.projectRoot else usual.projectRoot
    templatesDir := if kept.fields "templates_dir" then config.templatesDir
      else usual.templatesDir
    baseTemplatesDir := if kept.fields "base_templates_dir" then config.baseTemplatesDir
      else usual.baseTemplatesDir
    sqlPath := if kept.fields "sql_path" then config.sqlPath else usual.sqlPath
    api := if kept.fields "api" then restrictApi kept.api config.api else usual.api
    env := if kept.fields "env" then restrictEnv kept.env config.env else usual.env }

theorem foldl_apiFields (keep : String → Bool) (api : ApiSettings) :
    (apiFields api).foldl (fun value field => if keep field.name then field.set value else value)
      {} = restrictApi keep api := by
  -- A choice between two records is taken apart into one choice for each of their members.
  have apart (c : Bool) (x y : ApiSettings) : (if c then x else y) =
      ⟨if c then x.title else y.title, if c then x.version else y.version,
        if c then x.description else y.description, if c then x.baseUrl else y.baseUrl,
        if c then x.collectionName else y.collectionName,
        if c then x.collectionDescription else y.collectionDescription⟩ := by
    cases c <;> rfl
  unfold restrictApi
  generalize ({} : ApiSettings) = usual
  simp only [apiFields, List.foldl, apart, ite_self]

theorem foldl_envFields (keep : String → Bool) (env : EnvSettings) :
    (envFields env).foldl (fun value field => if keep field.name then field.set value else value)
      {} = restrictEnv keep env := by
  have apart (c : Bool) (x y : EnvSettings) : (if c then x else y) =
      ⟨if c then x.port else y.port, if c then x.dbHost else y.dbHost,
        if c then x.dbPort else y.dbPort, if c then x.dbUser else y.dbUser,
        if c then x.dbPassword else y.dbPassword⟩ := by
    cases c <;> rfl
  unfold restrictEnv
  generalize ({} : EnvSettings) = usual
  simp only [envFields, List.foldl, apart, ite_self]

/-- The fields of a configuration, with what is kept of its settings. -/
def configFields (kept : Kept) (config : Config) : List (Field Config) :=
  [⟨"project_root", .text config.projectRoot, ({ · with projectRoot := config.projectRoot })⟩,
    ⟨"templates_dir", .text config.templatesDir, ({ · with templatesDir := config.templatesDir })⟩,
    ⟨"base_templates_dir", .text config.baseTemplatesDir,
      ({ · with baseTemplatesDir := config.baseTemplatesDir })⟩,
    ⟨"sql_path", .text config.sqlPath, ({ · with sqlPath := config.sqlPath })⟩,
    ⟨"api", (apiDocument config.api).restrict kept.api,
      ({ · with api := restrictApi kept.api config.api })⟩,
    ⟨"env", (envDocument config.env).restrict kept.env,
      ({ · with env := restrictEnv kept.env config.env })⟩]

theorem foldl_configFields (kept : Kept) (config : Config) :
    (configFields kept config).foldl
      (fun value field => if kept.fields field.name then field.set value else value) {} =
      config.restrict kept := by
  have apart (c : Bool) (x y : Config) : (if c then x else y) =
      ⟨if c then x.projectRoot else y.projectRoot, if c then x.templatesDir else y.templatesDir,
        if c then x.baseTemplatesDir else y.baseTemplatesDir, if c then x.sqlPath else y.sqlPath,
        if c then x.api else y.api, if c then x.env else y.env⟩ := by
    cases c <;> rfl
  unfold restrict
  generalize ({} : Config) = usual
  simp only [configFields, List.foldl, apart, ite_self]

theorem names_apiFields (api : ApiSettings) : ((apiFields api).map (·.name)).Nodup := by
  simp only [apiFields, List.map_cons, List.map_nil]
  decide

theorem names_envFields (env : EnvSettings) : ((envFields env).map (·.name)).Nodup := by
  simp only [envFields, List.map_cons, List.map_nil]
  decide

theorem names_configFields (kept : Kept) (config : Config) :
    ((configFields kept config).map (·.name)).Nodup := by
  simp only [configFields, List.map_cons, List.map_nil]
  decide

theorem configFields_isSetBy (kept : Kept) (config : Config) :
    ∀ field ∈ configFields kept config, field.IsSetBy setConfig := by
  simp only [configFields, List.forall_mem_cons]
  refine ⟨?_, ?_, ?_, ?_, ?_, ?_, by simp⟩ <;> intro position node value describes
  · simp only [setConfig, readText_of_describes describes]
    rfl
  · simp only [setConfig, readText_of_describes describes]
    rfl
  · simp only [setConfig, readText_of_describes describes]
    rfl
  · simp only [setConfig, readText_of_describes describes]
    rfl
  · have read := readRecord_of_filter (apiFields_isSetBy config.api) (names_apiFields _) kept.api
      describes position .api {}
    rw [foldl_apiFields] at read
    simp only [setConfig, read]
    rfl
  · have read := readRecord_of_filter (envFields_isSetBy config.env) (names_envFields _) kept.env
      describes position .env {}
    rw [foldl_envFields] at read
    simp only [setConfig, read]
    rfl

/-- The document of which some entries are kept has the fields that are kept. -/
theorem apply_toDocument (kept : Kept) (config : Config) :
    kept.apply config.toDocument =
      .record (((configFields kept config).map (·.member)).filter (kept.fields ·.1)) := by
  have values : (configFields kept config).map (·.member) =
      [("project_root", .text config.projectRoot), ("templates_dir", .text config.templatesDir),
        ("base_templates_dir", .text config.baseTemplatesDir), ("sql_path", .text config.sqlPath),
        ("api", apiDocument config.api), ("env", envDocument config.env)].map
        fun (member : String × Document) =>
          (member.1, if member.1 = "api" then member.2.restrict kept.api
            else if member.1 = "env" then member.2.restrict kept.env
            else member.2) := by
    simp [configFields, Field.member]
  rw [values, List.filter_map]
  rfl

theorem isWritable_restrict {document : Document} (writable : IsWritable document)
    (keep : String → Bool) : IsWritable (document.restrict keep) := by
  cases writable with
  | record each => exact .record fun member kept => each member (List.mem_filter.1 kept).1
  | bool value => exact .bool value
  | number bare => exact .number bare
  | text value => exact .text value
  | list each => exact .list each

theorem isWritable_apiDocument (api : ApiSettings) : IsWritable (apiDocument api) := by
  refine .record ?_
  simp only [List.forall_mem_cons]
  exact ⟨.text _, .text _, .text _, .text _, .text _, .text _, by simp⟩

theorem isWritable_envDocument (env : EnvSettings) : IsWritable (envDocument env) := by
  refine .record ?_
  simp only [List.forall_mem_cons]
  exact ⟨Yaml.isWritable_natural _, .text _, Yaml.isWritable_natural _, .text _, .text _, by simp⟩

theorem isWritable_apply (kept : Kept) (config : Config) :
    IsWritable (kept.apply config.toDocument) := by
  have whole : ∀ field ∈ configFields kept config, IsWritable field.document := by
    simp only [configFields, List.forall_mem_cons]
    exact ⟨.text _, .text _, .text _, .text _,
      isWritable_restrict (isWritable_apiDocument _) _,
      isWritable_restrict (isWritable_envDocument _) _, by simp⟩
  rw [apply_toDocument]
  refine .record fun member isKept => ?_
  obtain ⟨field, isField, rfl⟩ := List.mem_map.1 (List.mem_filter.1 isKept).1
  exact whole field isField

/-- The text of a document with some entries of a configuration is read as these. -/
theorem ofBytes_apply (kept : Kept) (config : Config) :
    ofBytes (Yaml.render (kept.apply config.toDocument)).toUTF8 = .ok (config.restrict kept) := by
  have writable := isWritable_apply kept config
  obtain ⟨root, one, describes⟩ := Yaml.exists_ofText_render writable
  have read : ofTree ⟨root, []⟩ = .ok (config.restrict kept) := by
    rw [apply_toDocument] at describes
    rw [ofTree,
      readRecord_of_filter (configFields_isSetBy kept config) (names_configFields _ _) kept.fields
      describes, foldl_configFields]
  have chars : ofChars (Yaml.render (kept.apply config.toDocument)).toList =
      .ok (config.restrict kept) := by
    simp only [ofChars, one, read, Project.mapError_ok, bind, Except.bind]
  simp only [ofBytes, Yaml.decode_render writable, chars, Project.mapError_ok, bind, Except.bind]

/-- All entries. -/
def Kept.all : Kept := ⟨fun _ => true, fun _ => true, fun _ => true⟩

theorem apply_all (config : Config) : Kept.all.apply config.toDocument = config.toDocument := by
  simp [Kept.apply, Kept.all, toDocument, apiDocument, envDocument, Document.restrict]

theorem restrict_all (config : Config) : config.restrict .all = config := rfl

/-- The text of a configuration is read as the configuration. -/
theorem ofBytes_toYaml (config : Config) : ofBytes config.toYaml.toUTF8 = .ok config := by
  have read := ofBytes_apply .all config
  rwa [apply_all, restrict_all] at read

end Config

namespace Project

/-- A configuration is loaded from a file with its text. -/
theorem execute_loadConfig {path : String} {disk : Disk} {content : ByteArray} {config : Config}
    (given : disk.read path = .ok content) (read : Config.ofBytes content = .ok config) :
    execute (loadConfig path) disk = (.ok config, disk) := by
  have opened : execute (ExceptT.lift (MonadDisk.read path) : Run (StateM Disk) _) disk =
      (.ok (.ok content), disk) := by
    rw [← given]
    rfl
  unfold loadConfig
  rw [execute_bind, opened]
  simp only [configOfBytes, read, execute_pure]

/-- A configuration is read from its text as it was, whatever texts and numbers are in it. Of its
document with only some of the entries, also within the settings, those that are kept are read, and
what is left out is as it is without a configuration. What was saved in a file is loaded from
there. -/
theorem saved_config_is_loaded (config : Config) :
    Config.ofBytes config.toYaml.toUTF8 = .ok config ∧
      (∀ kept : Config.Kept, Config.ofBytes (Yaml.render (kept.apply config.toDocument)).toUTF8 =
        .ok (config.restrict kept)) ∧
      ∀ path disk after, execute (saveConfig path config) disk = (.ok (), after) →
        execute (loadConfig path) after = (.ok config, after) := by
  refine ⟨config.ofBytes_toYaml, fun kept => Config.ofBytes_apply kept config,
    fun path disk after saved => ?_⟩
  rw [saveConfig, execute_overwrite] at saved
  cases written : disk.write path config.toYaml with
  | error fault => simp [written] at saved
  | ok last =>
    obtain rfl : last = after := by simpa [written] using saved
    exact execute_loadConfig (Disk.read_of_write written).2 config.ofBytes_toYaml

/-- A configuration whose texts look like something else, or have blanks, lines and marks. -/
def trickyConfig : Config where
  projectRoot := " null\n\n  end \n"
  templatesDir := "- [x]: 1.0 # \x7b"
  baseTemplatesDir := "true"
  sqlPath := "\u0007\u2028'\""
  api := { title := "\tfirst\n second", version := "0x1f", baseUrl := "" }
  env := { port := 65535, dbHost := "~", dbUser := "...", dbPassword := "---" }

theorem saved_config_is_loaded_tricky :
    ∃ after, execute (saveConfig "config.yaml" trickyConfig) ⟨[], []⟩ = (.ok (), after) ∧
      execute (loadConfig "config.yaml") after = (.ok trickyConfig, after) := by
  have place : (⟨[], []⟩ : Disk).locate "config.yaml" = .ok (.absent ["config.yaml"]) := by rfl
  have saved : execute (saveConfig "config.yaml" trickyConfig) ⟨[], []⟩ =
      (.ok (), ⟨[], [(["config.yaml"], .file trickyConfig.toYaml.toUTF8)]⟩) := by
    rw [saveConfig, execute_overwrite, Disk.write, place]
    rfl
  exact ⟨_, saved, (saved_config_is_loaded trickyConfig).2.2 _ _ _ saved⟩

end Project
end SchemaScaffold
