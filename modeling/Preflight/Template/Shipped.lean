/-!
# The shipped check templates

The bundles of check templates that come with the program: `csv`, `html` (with its style
sheet), `json` and `md`. Each holds an output template and a version marker. They are
installed into the installation directory when the installed copy is missing or of another
version.
-/

set_option autoImplicit false

namespace Preflight.Template

/-- Joins lines into a text, each line ended by a line feed. -/
def linesText (ls : List String) : String :=
  String.join (ls.map (· ++ "\n"))

/-- The file `output.tmpl` of the `csv` bundle. -/
def csvOutputTmpl : String :=
  linesText [
  "group_id,title,control_id,control_title,status,reason,resource",
  "\x7b% for group in run.groups %\x7d\x7b% for row in group.rows -%\x7d",
  "\x7b\x7b group.id \x7d\x7d,\x7b\x7b group.title | csv \x7d\x7d,\x7b\x7b row.control_id \x7d\x7d,\x7b\x7b row.control | csv \x7d\x7d,\x7b\x7b row.status \x7d\x7d,\x7b\x7b row.reason | csv \x7d\x7d,\x7b\x7b row.resource | csv \x7d\x7d",
  "\x7b% endfor %\x7d\x7b% endfor %\x7d"]

/-- The file `version.json` of the `csv` bundle. -/
def csvVersionJson : String :=
  "\x7b\"version\":\"1\"\x7d"

/-- The file `output.tmpl` of the `html` bundle. -/
def htmlOutputTmpl : String :=
  linesText [
  "<!DOCTYPE html>",
  "<html lang=\"en\">",
  "<head>",
  "  <meta charset=\"utf-8\">",
  "  <title>\x7b\x7b run.title \x7d\x7d</title>",
  "  <link rel=\"stylesheet\" href=\"theme.css\">",
  "</head>",
  "<body>",
  "  <h1>\x7b\x7b run.title \x7d\x7d</h1>",
  "  <p class=\"summary\">",
  "    ok: \x7b\x7b run.summary.ok \x7d\x7d &middot; alarm: \x7b\x7b run.summary.alarm \x7d\x7d &middot;",
  "    info: \x7b\x7b run.summary.info \x7d\x7d &middot; skip: \x7b\x7b run.summary.skip \x7d\x7d &middot;",
  "    error: \x7b\x7b run.summary.error \x7d\x7d",
  "  </p>",
  "  \x7b% for group in run.groups %\x7d",
  "  <section>",
  "    <h2>\x7b\x7b group.title \x7d\x7d</h2>",
  "    <table>",
  "      <thead><tr><th>Control</th><th>Status</th><th>Resource</th><th>Reason</th></tr></thead>",
  "      <tbody>",
  "      \x7b% for row in group.rows %\x7d",
  "        <tr class=\"status-\x7b\x7b row.status \x7d\x7d\">",
  "          <td>\x7b\x7b row.control \x7d\x7d</td><td>\x7b\x7b row.status \x7d\x7d</td><td>\x7b\x7b row.resource \x7d\x7d</td><td>\x7b\x7b row.reason \x7d\x7d</td>",
  "        </tr>",
  "      \x7b% endfor %\x7d",
  "      </tbody>",
  "    </table>",
  "  </section>",
  "  \x7b% endfor %\x7d",
  "  <footer>Generated by checkpipe \x7b\x7b run.version \x7d\x7d on \x7b\x7b run.end_time \x7d\x7d</footer>",
  "</body>",
  "</html>"]

/-- The file `theme.css` of the `html` bundle. -/
def htmlThemeCss : String :=
  linesText [
  "body \x7b font-family: system-ui, sans-serif; margin: 2rem; color: #1f2933; \x7d",
  "table \x7b border-collapse: collapse; width: 100%; margin-bottom: 2rem; \x7d",
  "th, td \x7b border-bottom: 1px solid #d9e2ec; padding: 0.4rem 0.6rem; text-align: left; \x7d",
  ".summary \x7b color: #52606d; \x7d",
  ".status-ok td:nth-child(2) \x7b color: #2f8132; \x7d",
  ".status-alarm td:nth-child(2) \x7b color: #c62828; \x7d",
  ".status-error td:nth-child(2) \x7b color: #8e24aa; \x7d",
  ".status-skip td:nth-child(2), .status-info td:nth-child(2) \x7b color: #52606d; \x7d",
  "footer \x7b font-size: 0.8rem; color: #7b8794; \x7d"]

/-- The file `version.json` of the `html` bundle. -/
def htmlVersionJson : String :=
  "\x7b\"version\":\"2\"\x7d"

/-- The file `output.tmpl` of the `json` bundle. -/
def jsonOutputTmpl : String :=
  linesText [
  "\x7b\x7b run | tojson(indent=2) \x7d\x7d"]

/-- The file `version.json` of the `json` bundle. -/
def jsonVersionJson : String :=
  "\x7b\"version\":\"1\"\x7d"

/-- The file `output.tmpl` of the `md` bundle. -/
def mdOutputTmpl : String :=
  linesText [
  "# \x7b\x7b run.title \x7d\x7d",
  "",
  "| OK | Alarm | Info | Skip | Error |",
  "|----|-------|------|------|-------|",
  "| \x7b\x7b run.summary.ok \x7d\x7d | \x7b\x7b run.summary.alarm \x7d\x7d | \x7b\x7b run.summary.info \x7d\x7d | \x7b\x7b run.summary.skip \x7d\x7d | \x7b\x7b run.summary.error \x7d\x7d |",
  "\x7b% for group in run.groups %\x7d",
  "## \x7b\x7b group.title \x7d\x7d",
  "",
  "| Control | Status | Resource | Reason |",
  "|---------|--------|----------|--------|",
  "\x7b% for row in group.rows -%\x7d",
  "| \x7b\x7b row.control \x7d\x7d | \x7b\x7b row.status \x7d\x7d | \x7b\x7b row.resource \x7d\x7d | \x7b\x7b row.reason \x7d\x7d |",
  "\x7b% endfor %\x7d",
  "\x7b% endfor %\x7d",
  "_Generated by checkpipe \x7b\x7b run.version \x7d\x7d on \x7b\x7b run.end_time \x7d\x7d_"]

/-- The file `version.json` of the `md` bundle. -/
def mdVersionJson : String :=
  "\x7b\"version\":\"1\"\x7d"

/-- The shipped files, as paths inside the templates directory with their text. -/
def shippedFiles : List (String × String) :=
  [("csv/output.tmpl", csvOutputTmpl),
   ("csv/version.json", csvVersionJson),
   ("html/output.tmpl", htmlOutputTmpl),
   ("html/theme.css", htmlThemeCss),
   ("html/version.json", htmlVersionJson),
   ("json/output.tmpl", jsonOutputTmpl),
   ("json/version.json", jsonVersionJson),
   ("md/output.tmpl", mdOutputTmpl),
   ("md/version.json", mdVersionJson)]

end Preflight.Template
