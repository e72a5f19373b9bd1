/-!
# A settings file to begin with

The file that a user is given to edit.  It says what each setting means and sets it to its default.
-/

namespace TextureCatalog.Settings

def templateLines : List String :=
  ["# material-inspector configuration",
   "#",
   "# Default location: ~/.config/material-inspector/config.toml",
   "# Every option is optional; the values below are the defaults.",
   "",
   "[display]",
   "# Use colored terminal output (also disabled by --no-color or NO_COLOR)",
   "colored_output = true",
   "",
   "[filters]",
   "# Default resolution range applied to the larger texture dimension.",
   "# Override per search with --min-res / --max-res.",
   "min_resolution = 0",
   "max_resolution = 8192",
   "",
   "# Default color-space class: all, srgb, linear, normal-maps",
   "color_space = \"all\"",
   "",
   "# Default pixel-format substring (empty = no format filter), e.g. \"dxt5\"",
   "format_filter = \"\""]

def template : List Char :=
  templateLines.flatMap fun line => line.toList ++ ['\n']

end TextureCatalog.Settings
