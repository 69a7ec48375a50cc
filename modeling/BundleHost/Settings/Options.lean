import BundleHost.Value.Basic

/-! Options, which stand among the settings that are given directly and say how the other sources
are read. An option that is nothing leaves things as they are. -/

namespace BundleHost.Settings

/-- Options on the environment and on the file of environment variables. -/
def readingNames : List Text := [
  "_case_sensitive", "_env_prefix", "_env_prefix_target", "_env_file", "_env_file_encoding",
  "_env_file_depth", "_env_ignore_empty", "_env_parse_none_str", "_env_nested_max_split",
  "_secrets_dir", "_build_sources"]

def commandLineNames : List Text := [
  "_cli_parse_args", "_cli_parse_none_str", "_cli_avoid_json", "_cli_exit_on_error", "_cli_prefix",
  "_cli_flag_prefix_char", "_cli_implicit_flags", "_cli_ignore_unknown_args", "_cli_kebab_case",
  "_cli_shortcuts"]

/-- Options on which nothing depends here: those for settings that have parts, and those on the help
about the command line. -/
def idleNames : List Text := [
  "_nested_model_default_partial_update", "_env_nested_delimiter", "_env_parse_enums",
  "_cli_prog_name", "_cli_settings_source", "_cli_hide_none_type", "_cli_enforce_required",
  "_cli_use_class_docs_for_groups", "_cli_show_env_vars"]

def isOption (name : Text) : Bool :=
  readingNames.contains name || commandLineNames.contains name || idleNames.contains name

/-- The value of an option, unless it is nothing. -/
def option? (given : Fields) (name : Text) : Option Value :=
  match given.get? name with
  | some .null => none
  | found => found

def isOn (given : Fields) (name : Text) : Bool := (option? given name).any Value.holds

end BundleHost.Settings
