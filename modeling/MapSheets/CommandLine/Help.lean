/-
The help of the command line.
-/

namespace MapSheets.CommandLine

/-- The lines that tell how the program is used. -/
def help : List String :=
  ["usage: mapsheets [-h] [--config CONFIG] [--sheet SHEET] [--mdgid MDGID]",
   "                 [--lat LAT] [--lng LNG] [--srid SRID] [--output OUTPUT]",
   "                 [--no-basemap] [--pdf] [--png] [--list]",
   "",
   "Generate atlas map sheets for grid cells",
   "",
   "options:",
   "  -h, --help       show this help message and exit",
   "  --config CONFIG  Path to the JSON config (default: map_config.json)",
   "  --sheet SHEET    Sheet name from the config",
   "  --mdgid MDGID    Grid cell ID, e.g. V795X16 or V795X16:23",
   "  --lat LAT        Latitude of a point in the cell",
   "  --lng LNG        Longitude of a point in the cell",
   "  --srid SRID      SRID of --lat/--lng (default: 4326)",
   "  --output OUTPUT  Override the sheet output directory",
   "  --no-basemap     Skip the basemap raster",
   "  --pdf            Also export a PDF",
   "  --png            Also export a PNG at the sheet dpi",
   "  --list           List configured sheets and providers"]

end MapSheets.CommandLine
