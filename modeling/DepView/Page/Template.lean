import DepView.Text.Basic

/-!
The viewer page around its configuration: a document that draws the main graph and, over it, the
syntax tree of a node that is clicked.
-/

namespace DepView.Page

/-- The page up to its configuration. -/
def head : String :=
  "<!DOCTYPE html>
<html lang=\"en\">
<head>
    <meta charset=\"UTF-8\">
    <meta name=\"viewport\" content=\"width=device-width, initial-scale=1.0\">
    <title>dtsviz</title>
    <script src=\"https://unpkg.com/cytoscape@3.30.2/dist/cytoscape.min.js\"></script>
    <script src=\"https://unpkg.com/dagre@0.8.5/dist/dagre.min.js\"></script>
    <script src=\"https://unpkg.com/cytoscape-dagre@2.5.0/cytoscape-dagre.js\"></script>
    <style>
        :root \x7b
            --bg-base: #f3f4f6;
            --bg-header: #111827;
            --text-header: #f9fafb;
            --color-danger: #dc2626;
            --text-muted: #4b5563;
        \x7d
        html, body \x7b margin: 0; width: 100%; height: 100%; font-family: ui-sans-serif, system-ui, sans-serif; \x7d
        body \x7b background: var(--bg-base); \x7d
        #cy \x7b width: 100vw; height: 100vh; \x7d
        #error \x7b padding: 16px; color: var(--color-danger); font-family: ui-monospace, monospace; \x7d

        /* Overlay */
        #overlay \x7b position: fixed; inset: 0; background: rgba(0, 0, 0, 0.8); z-index: 50;
                   display: none; flex-direction: column; \x7d
        #overlay.open \x7b display: flex; \x7d
        #overlay-header \x7b display: flex; align-items: center; justify-content: space-between;
                          background: var(--bg-header); color: var(--text-header); padding: 16px; \x7d
        #overlay-title \x7b margin: 0; font-size: 18px; font-weight: 700; \x7d
        #overlay-close \x7b background: none; border: none; color: var(--text-header); font-size: 20px; cursor: pointer; \x7d
        #overlay-close:hover \x7b color: #f87171; \x7d
        #overlay-body \x7b flex: 1; background: #fff; overflow: auto; padding: 16px; display: flex; flex-direction: column; \x7d
        #overlay-graph \x7b flex: 1; min-height: 400px; \x7d
        #overlay-error \x7b color: var(--color-danger); margin-bottom: 8px; \x7d
        #overlay-error .hint \x7b margin-top: 8px; font-size: 13px; color: var(--text-muted); \x7d
        pre.raw \x7b white-space: pre-wrap; font-size: 13px; padding: 8px; background: #f8fafc; border-radius: 4px; \x7d
    </style>
</head>
<body>
    <div id=\"cy\"></div>

    <div id=\"overlay\">
        <div id=\"overlay-header\">
            <h2 id=\"overlay-title\">AST</h2>
            <button id=\"overlay-close\" title=\"Close\">&#x2715;</button>
        </div>
        <div id=\"overlay-body\">
            <div id=\"overlay-status\">Loading&hellip;</div>
            <div id=\"overlay-error\" hidden></div>
            <div id=\"overlay-graph\"></div>
            <details id=\"overlay-raw\" hidden>
                <summary>Show raw DOT</summary>
                <pre class=\"raw\"></pre>
            </details>
        </div>
    </div>

    <script>
        const CONFIG = "

/-- The page from the end of its configuration on. -/
def tail : String :=
  ";

        if (window.cytoscapeDagre) \x7b cytoscape.use(cytoscapeDagre); \x7d

        const MAIN_STYLE = [
            \x7b selector: \"node[name]\", style: \x7b content: \"data(name)\", \"text-wrap\": \"wrap\" \x7d \x7d,
            \x7b selector: \"edge\", style: \x7b \"curve-style\": \"bezier\", \"target-arrow-shape\": \"triangle\" \x7d \x7d,
        ];

        const TREE_STYLE = [
            \x7b
                selector: \"node[name]\",
                style: \x7b
                    content: \"data(name)\", \"text-wrap\": \"wrap\",
                    \"text-valign\": \"center\", \"text-halign\": \"center\",
                    shape: \"roundrectangle\", width: \"label\", height: \"label\", padding: \"10px\",
                    \"background-color\": \"#f0f0f0\", \"border-width\": 1, \"border-color\": \"#999\",
                    \"font-size\": 12,
                \x7d,
            \x7d,
            \x7b selector: \"edge\", style: \x7b \"curve-style\": \"bezier\", \"target-arrow-shape\": \"triangle\" \x7d \x7d,
        ];

        // ============================================================
        // MAIN GRAPH
        // ============================================================
        async function loadMainGraph() \x7b
            if (CONFIG.elements) \x7b
                return \x7b elements: CONFIG.elements, layout: CONFIG.layout || \x7b name: \"preset\" \x7d \x7d;
            \x7d
            const params = new URLSearchParams(window.location.search);
            const dot = params.get(\"dot\") || CONFIG.defaultDot;
            const res = await fetch(`$\x7bCONFIG.graphEndpoint\x7d?dot=$\x7bencodeURIComponent(dot)\x7d`);
            if (!res.ok) \x7b
                const body = await res.json().catch(() => (\x7b\x7d));
                throw new Error(body.detail || `Failed to load DOT file: $\x7bres.status\x7d $\x7bres.statusText\x7d`);
            \x7d
            return res.json();
        \x7d

        async function init() \x7b
            try \x7b
                const graph = await loadMainGraph();
                const cy = cytoscape(\x7b
                    container: document.getElementById(\"cy\"),
                    layout: graph.layout,
                    style: MAIN_STYLE,
                    elements: graph.elements,
                \x7d);
                cy.on(\"tap\", \"node\", (evt) => openOverlay(evt.target.data(\"id\")));
            \x7d catch (err) \x7b
                const box = document.getElementById(\"cy\");
                box.id = \"error\";
                box.textContent = err.message || String(err);
            \x7d
        \x7d

        // ============================================================
        // OVERLAY
        // ============================================================
        const overlay = document.getElementById(\"overlay\");
        let overlayCy = null;
        let generation = 0;

        function resetOverlay() \x7b
            if (overlayCy) \x7b overlayCy.destroy(); overlayCy = null; \x7d
            document.getElementById(\"overlay-status\").hidden = false;
            document.getElementById(\"overlay-error\").hidden = true;
            document.getElementById(\"overlay-raw\").hidden = true;
        \x7d

        function closeOverlay() \x7b
            generation += 1;  // retire any in-flight request
            if (!CONFIG.elements) \x7b
                fetch(CONFIG.overlayEndpoint, \x7b method: \"DELETE\" \x7d).catch(() => \x7b\x7d);
            \x7d
            resetOverlay();
            overlay.classList.remove(\"open\");
        \x7d

        async function openOverlay(nodeId) \x7b
            const mine = ++generation;
            resetOverlay();
            document.getElementById(\"overlay-title\").textContent = nodeId || \"AST\";
            overlay.classList.add(\"open\");

            let snapshot;
            try \x7b
                const res = await fetch(`$\x7bCONFIG.overlayEndpoint\x7d?node=$\x7bencodeURIComponent(nodeId)\x7d`);
                if (!res.ok) throw new Error(`Overlay request failed: $\x7bres.status\x7d $\x7bres.statusText\x7d`);
                snapshot = await res.json();
            \x7d catch (err) \x7b
                snapshot = \x7b state: \"failed\", title: nodeId, error: err.message || String(err) \x7d;
            \x7d
            // superseded by a newer activation, or an answer for another node
            if (mine !== generation || snapshot.title !== nodeId) return;
            showSnapshot(snapshot);
        \x7d

        function showSnapshot(snapshot) \x7b
            document.getElementById(\"overlay-status\").hidden = true;

            if (snapshot.state === \"failed\") \x7b
                const box = document.getElementById(\"overlay-error\");
                box.hidden = false;
                box.innerHTML = \"<strong>Error fetching DOT:</strong> \";
                box.appendChild(document.createTextNode(snapshot.error || \"unknown error\"));
                const hint = document.createElement(\"div\");
                hint.className = \"hint\";
                hint.textContent = \"Put the file under the artifact directory or make sure the server exposes the /dot/ path.\";
                box.appendChild(hint);
                return;
            \x7d
            if (snapshot.state !== \"displaying\") return;

            overlayCy = cytoscape(\x7b
                container: document.getElementById(\"overlay-graph\"),
                style: TREE_STYLE,
                elements: snapshot.elements,
                layout: snapshot.layout,
            \x7d);
            if (snapshot.fit) \x7b overlayCy.ready(() => overlayCy.fit()); \x7d

            const raw = document.getElementById(\"overlay-raw\");
            raw.hidden = false;
            raw.querySelector(\"pre\").textContent = snapshot.raw_text || \"\";
        \x7d

        // Clicks inside the header or body never reach the backdrop handler
        overlay.addEventListener(\"click\", closeOverlay);
        document.getElementById(\"overlay-header\").addEventListener(\"click\", (e) => e.stopPropagation());
        document.getElementById(\"overlay-body\").addEventListener(\"click\", (e) => e.stopPropagation());
        document.getElementById(\"overlay-close\").addEventListener(\"click\", (e) => \x7b
            e.stopPropagation();
            closeOverlay();
        \x7d);

        init();
    </script>
</body>
</html>
"

/-- What the configuration is put in the place of. -/
def placeholder : Text :=
  "__VIEWER_CONFIG__".toList

/-- The page with the placeholder for its configuration. -/
def template : Text :=
  head.toList ++ placeholder ++ tail.toList

end DepView.Page
