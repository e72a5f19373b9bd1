/-!
# Help topics

Texts about the query language and about manifests.
-/

namespace TextureCatalog.Program

structure Topic where
  name : String
  lines : List String
  deriving DecidableEq, Repr

def queryTopic : Topic :=
  { name := "query"
    lines :=
      ["Parse texture search queries.",
       "",
       "Grammar summary:",
       "    - ``a|b|c``: keep textures matching any term (pipe wins over comma)",
       "    - ``a,b,c``: keep textures matching every term",
       "    - ``!term``: negate a term",
       "    - ``>2048``, ``<1024``, ``>=512``, ``<=4096``, ``=1024``: compare the",
       "      larger texture dimension against a number",
       "    - ``2048<`` (smaller than the texture), ``2048>`` (bigger than the texture)",
       "    - anything else: case-insensitive substring search"] }

def manifestTopic : Topic :=
  { name := "manifest"
    lines :=
      ["Load the texture slots of a material from a JSON manifest.",
       "",
       "A manifest describes one material and its texture properties::",
       "",
       "    \x7b",
       "      \"material\": \"Rock_Mat\",",
       "      \"path\": \"Assets/Materials/Rock_Mat.mat\",",
       "      \"textures\": [",
       "        \x7b",
       "          \"property\": \"_MainTex\",",
       "          \"display_name\": \"Albedo\",",
       "          \"texture\": \x7b",
       "            \"name\": \"Rock_Albedo\",",
       "            \"path\": \"Assets/Textures/Rock_Albedo.png\",",
       "            \"width\": 2048,",
       "            \"height\": 2048,",
       "            \"format\": \"RGBA_DXT5_SRGB\",",
       "            \"importer\": \x7b\"texture_type\": \"default\", \"srgb\": true,",
       "                         \"crunched\": true, \"compression_quality\": 50,",
       "                         \"compression\": \"compressed\"\x7d",
       "          \x7d",
       "        \x7d,",
       "        \x7b\"property\": \"_DetailMap\", \"display_name\": \"Detail\", \"texture\": null\x7d",
       "      ]",
       "    \x7d",
       "",
       "Slots whose texture is ``null`` are skipped."] }

def topics : List Topic := [queryTopic, manifestTopic]

def topicsLine : String :=
  "Topics: " ++ ", ".intercalate (topics.map Topic.name)

end TextureCatalog.Program
